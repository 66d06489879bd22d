import Mathlib.Data.List.Forall2
import MagicBaud.Proofs.Hexadecimal
import MagicBaud.Proofs.Process

namespace MagicBaud.Port

def IsUsb (p : Port) : Prop := ∃ device, p.attachment = .usb device

/-- Whether a port reacts to a change of rate, by how it is attached and what its path says. -/
def Reacts (p : Port) : Prop :=
  (p.IsUsb ∨ p.attachment = .unknown) ∧
      ("ttyACM".toList <:+: p.path.toList ∨ "usbmodem".toList <:+: p.path.toList) ∨
    p.IsUsb ∧ "COM".toList <+: p.path.toList

theorem occurs_iff {part cs : List Char} : occurs part cs = true ↔ part <:+: cs := by
  induction cs with
  | nil => simp [occurs, List.infix_nil]
  | cons c cs ih =>
    rw [occurs, Bool.or_eq_true, List.isPrefixOf_iff_prefix, ih, List.infix_cons_iff]

theorem hasModemPath_iff {p : Port} : p.hasModemPath = true ↔
    "ttyACM".toList <:+: p.path.toList ∨ "usbmodem".toList <:+: p.path.toList := by
  rw [hasModemPath, Bool.or_eq_true, occurs_iff, occurs_iff]

theorem isCandidate_iff {p : Port} : p.isCandidate = true ↔ p.Reacts := by
  unfold isCandidate Reacts IsUsb
  cases p.attachment with
  | usb device =>
    simp only [Bool.or_eq_true, hasModemPath_iff, List.isPrefixOf_iff_prefix]
    simp
  | unknown =>
    simp only [hasModemPath_iff]
    simp
  | pci | bluetooth => simp

instance (p : Port) : Decidable p.Reacts := decidable_of_iff _ isCandidate_iff

theorem decide_reacts (p : Port) : decide p.Reacts = p.isCandidate :=
  Bool.eq_iff_iff.mpr (decide_eq_true_iff.trans isCandidate_iff.symm)

section
variable {α : Type} {f : α → Bool}

theorem filter_append_filter_of_pairwise {l : List α} (h : l.Pairwise (fun a b => f a || !f b)) :
    l.filter f ++ l.filter (!f ·) = l := by
  induction l with
  | nil => rfl
  | cons a l ih =>
    obtain ⟨ha, hl⟩ := List.pairwise_cons.mp h
    cases hf : f a with
    | true => simp [hf, ih hl]
    | false =>
      have hn : ∀ b ∈ l, f b = false := fun b hb => by simpa [hf] using ha b hb
      have hnone : l.filter f = [] := List.filter_eq_nil_iff.mpr fun b hb => by simp [hn b hb]
      have hall : l.filter (!f ·) = l := List.filter_eq_self.mpr fun b hb => by simp [hn b hb]
      simp [hf, hnone, hall]

/-- A stable sort with two keys puts one group before the other and changes nothing else. -/
theorem mergeSort_eq_filter_append_filter (l : List α) :
    l.mergeSort (fun a b => f a || !f b) = l.filter f ++ l.filter (!f ·) := by
  have htrans : ∀ a b c : α, (f a || !f b) = true → (f b || !f c) = true →
      (f a || !f c) = true := by
    intro a b c hab hbc
    cases ha : f a <;> cases hb : f b <;> simp_all
  have htotal : ∀ a b : α, ((f a || !f b) || (f b || !f a)) = true := by
    intro a b
    cases f a <;> cases f b <;> rfl
  let sorted := l.mergeSort (fun a b => f a || !f b)
  have hperm : sorted.Perm l := List.mergeSort_perm l _
  -- A group is in order by itself, so that the sort keeps it as a sublist: the whole group, since
  -- none are lost or added.
  have group : ∀ g : α → Bool, (l.filter g).Pairwise (fun a b => f a || !f b) →
      sorted.filter g = l.filter g := by
    intro g hg
    have hs : (l.filter g).Sublist sorted :=
      List.sublist_mergeSort htrans htotal hg List.filter_sublist
    have hf := hs.filter g
    simp only [List.filter_filter, Bool.and_self] at hf
    exact (hf.eq_of_length (hperm.filter g).length_eq.symm).symm
  have hsorted : sorted.filter f ++ sorted.filter (!f ·) = sorted :=
    filter_append_filter_of_pairwise (List.pairwise_mergeSort htrans htotal l)
  rw [group f, group (!f ·)] at hsorted
  · exact hsorted.symm
  · refine List.pairwise_of_forall_mem_list fun a _ b hb => ?_
    have := (List.mem_filter.mp hb).2
    simp_all
  · refine List.pairwise_of_forall_mem_list fun a ha b _ => ?_
    simp [(List.mem_filter.mp ha).2]

end

/-- Those that react first, each group in the order in which the system gave it. -/
def reactingFirst (ports : List Port) : List Port :=
  ports.filter (fun p => p.Reacts) ++ ports.filter (fun p => ¬ p.Reacts)

theorem candidatesFirst_eq (ports : List Port) : candidatesFirst ports = reactingFirst ports := by
  refine (mergeSort_eq_filter_append_filter ports).trans ?_
  simp only [reactingFirst, decide_not, decide_reacts]

theorem reactingFirst_perm (ports : List Port) : (reactingFirst ports).Perm ports := by
  have h := List.filter_append_perm (fun p : Port => decide p.Reacts) ports
  simpa only [reactingFirst, decide_not] using h

/-- No port that reacts stands behind one that does not. -/
theorem reactingFirst_pairwise (ports : List Port) :
    (reactingFirst ports).Pairwise (fun p q => q.Reacts → p.Reacts) := by
  refine List.pairwise_append.mpr ⟨?_, ?_, ?_⟩
  · refine List.pairwise_of_forall_mem_list fun p hp q _ _ => ?_
    simpa using (List.mem_filter.mp hp).2
  · refine List.pairwise_of_forall_mem_list fun p _ q hq hr => ?_
    simp [hr] at hq
  · intro p hp q _ _
    simpa using (List.mem_filter.mp hp).2

/-- Four hexadecimal digits that make up a number. -/
def FourDigits (n : UInt16) (s : String) : Prop :=
  ∃ a b c d : Nat, a < 16 ∧ b < 16 ∧ c < 16 ∧ d < 16 ∧
    n.toNat = ((a * 16 + b) * 16 + c) * 16 + d ∧
    s = String.ofList [a.digitChar, b.digitChar, c.digitChar, d.digitChar]

/-- The line for a value, if the system gave it. -/
def given (label : String) : Option String → String
  | some value => "    " ++ label ++ ": " ++ value ++ "\n"
  | none => ""

/-- What is said below the path of a port. -/
inductive Details : Attachment → String → Prop
  | usb {d : UsbDevice} {vid pid : String} (hv : FourDigits d.vid vid) (hp : FourDigits d.pid pid) :
      Details (.usb d) ("    Type: USB\n" ++ given "Manufacturer" d.manufacturer ++
        given "Product" d.product ++ given "Serial" d.serialNumber ++
        "    VID:PID: " ++ vid ++ ":" ++ pid ++ "\n")
  | pci : Details .pci "    Type: PCI\n"
  | bluetooth : Details .bluetooth "    Type: Bluetooth\n"
  | unknown : Details .unknown "    Type: Unknown\n"

inductive Block : Port → String → Prop
  | reacting {p : Port} {details : String} (h : p.Reacts) (hd : Details p.attachment details) :
      Block p ("\n[*] " ++ p.path ++ "\n" ++ details)
  | other {p : Port} {details : String} (h : ¬ p.Reacts) (hd : Details p.attachment details) :
      Block p ("\n[ ] " ++ p.path ++ "\n" ++ details)

def tips : String :=
  "No serial ports found\n" ++
  "\n" ++
  "Troubleshooting tips:\n" ++
  "  1. Connect the device over USB\n" ++
  "  2. Check if it is recognized: ls -la /dev/ttyACM*\n" ++
  "  3. Add your user to the 'dialout' group: sudo usermod -aG dialout $USER\n"

def heading : String :=
  "Available Serial Ports:\n" ++
  "============================================================\n"

def footing : String :=
  "\n" ++
  "============================================================\n" ++
  "Ports marked [*] are CDC-ACM devices. Use: serial-switcher <BAUD> <PORT>\n"

theorem hex_fourDigits (n : UInt16) : FourDigits n (hex n) := by
  have hn : n.toNat < 65536 := n.toNat_lt
  refine ⟨n.toNat / 16 / 16 / 16 % 16, n.toNat / 16 / 16 % 16, n.toNat / 16 % 16, n.toNat % 16,
    ?_, ?_, ?_, ?_, ?_, ?_⟩
  · exact Nat.mod_lt _ (by decide)
  · exact Nat.mod_lt _ (by decide)
  · exact Nat.mod_lt _ (by decide)
  · exact Nat.mod_lt _ (by decide)
  · omega
  · exact congrArg String.ofList (Text.Hexadecimal.padded_eq_write (by decide) hn)

/-- Lines, each of them ended. -/
def ended (lines : List String) : String := String.join (lines.map (· ++ "\n"))

theorem ended_cons (line : String) (lines : List String) :
    ended (line :: lines) = line ++ "\n" ++ ended lines := by
  rw [ended, List.map_cons, String.join_cons]
  rfl

theorem ended_append (above below : List String) :
    ended (above ++ below) = ended above ++ ended below := by
  rw [ended, List.map_append, String.join_append]
  rfl

theorem ended_flatMap {α : Type} (f : α → List String) (as : List α) :
    ended (as.flatMap f) = String.join (as.map fun a => ended (f a)) := by
  induction as with
  | nil => rfl
  | cons a as ih => rw [List.flatMap_cons, ended_append, ih, List.map_cons, String.join_cons]

theorem ended_detail (label : String) (value : Option String) :
    ended (detail label value) = given label value := by
  cases value with
  | none => rfl
  | some value => exact (ended_cons _ []).trans String.append_empty

theorem report_eq (colour : Bool) (ports : List Port) :
    report colour ports = ended (reportLines colour ports) := rfl

theorem details_below (p : Port) :
    Details p.attachment (ended (("    Type: " ++ p.attachment.name) ::
      match p.device? with
      | some d => deviceLines d
      | none => [])) := by
  rw [ended_cons]
  unfold device?
  cases p.attachment with
  | usb d =>
    have ht : "    Type: " ++ "USB" ++ "\n" = "    Type: USB\n" := rfl
    have hd : ended (deviceLines d) = given "Manufacturer" d.manufacturer ++
        given "Product" d.product ++ given "Serial" d.serialNumber ++
        ("    VID:PID: " ++ hex d.vid ++ ":" ++ hex d.pid ++ "\n") := by
      rw [deviceLines, ended_append, ended_append, ended_append, ended_detail, ended_detail,
        ended_detail, ended_cons]
      exact congrArg _ String.append_empty
    have h := Details.usb (hex_fourDigits d.vid) (hex_fourDigits d.pid)
    simp only [Attachment.name, ht, hd]
    simpa only [String.append_assoc] using h
  | pci => exact .pci
  | bluetooth => exact .bluetooth
  | unknown => exact .unknown

theorem block_ended (p : Port) : Block p (ended (block false p)) := by
  have hd := p.details_below
  have hb : ended (block false p) = "\n" ++ (p.marker false ++ " " ++ p.path ++ "\n" ++
      ended (("    Type: " ++ p.attachment.name) ::
        match p.device? with
        | some d => deviceLines d
        | none => [])) := by
    rw [block, List.cons_append, ended_cons, List.cons_append, ended_cons]
    rfl
  rw [hb]
  by_cases hr : p.Reacts
  · have hm : p.marker false = "[*]" := if_pos (isCandidate_iff.mpr hr)
    have hs : "\n[*] " = "\n" ++ ("[*]" ++ " ") := rfl
    have h := Block.reacting hr hd
    rw [hs] at h
    simpa only [hm, String.append_assoc] using h
  · have hm : p.marker false = "[ ]" := if_neg (mt isCandidate_iff.mp hr)
    have hs : "\n[ ] " = "\n" ++ ("[ ]" ++ " ") := rfl
    have h := Block.other hr hd
    rw [hs] at h
    simpa only [hm, String.append_assoc] using h

theorem report_nil : report false [] = tips := by
  rfl

theorem report_of_ne_nil {ports : List Port} (h : ports ≠ []) :
    report false ports =
      heading ++ String.join ((reactingFirst ports).map fun p => ended (block false p)) ++
        footing := by
  have he : ports.isEmpty = false := by simpa using h
  have hh : ended ["Available Serial Ports:", ruler] = heading := rfl
  have hf : ended ["", ruler,
    "Ports marked [*] are CDC-ACM devices. Use: serial-switcher <BAUD> <PORT>"] = footing := rfl
  rw [report_eq, reportLines, he, candidatesFirst_eq]
  rw [← hh, ← hf, ← ended_flatMap, ← ended_append, ← ended_append]
  rfl

theorem block_of_mem (ports : List Port) :
    List.Forall₂ Block ports (ports.map fun p => ended (block false p)) := by
  rw [List.forall₂_map_right_iff, List.forall₂_same]
  exact fun p _ => p.block_ended

/-- A process that lists ports prints the report on them. -/
theorem output_of_list {w : World} {tokens : List String} {c : CommandLine} {ports : List Port}
    (h : CommandLine.parse tokens = .ok c) (hl : c.list = true) (hp : w.ports = .ok ports) :
    (Program.run w tokens).output = report w.colour ports := by
  rw [Program.run_accepted h, CommandLine.work_list hl, hp]
  rfl

/-- The report consists of tips if there are no ports, and otherwise of a block for each port, those
first that react. No port is lost, doubled or moved within its group, so that only the two groups
matter; and it is what a process prints that lists ports. -/
theorem report_partitioned :
    report false [] = tips ∧
    (∀ ports : List Port, ports ≠ [] →
      ∃ blocks, List.Forall₂ Block (reactingFirst ports) blocks ∧
        report false ports = heading ++ String.join blocks ++ footing) ∧
    (∀ ports : List Port, (reactingFirst ports).Perm ports ∧
      (reactingFirst ports).Pairwise (fun p q => q.Reacts → p.Reacts)) ∧
    (∀ ports ports' : List Port,
      ports.filter (fun p => p.Reacts) = ports'.filter (fun p => p.Reacts) →
      ports.filter (fun p => ¬ p.Reacts) = ports'.filter (fun p => ¬ p.Reacts) →
      report false ports = report false ports') ∧
    ∀ (w : World) (tokens : List String) (c : CommandLine) (ports : List Port),
      CommandLine.parse tokens = .ok c → c.list = true → w.ports = .ok ports → w.colour = false →
      (Program.run w tokens).output = report false ports := by
  refine ⟨report_nil, ?_, ?_, ?_, ?_⟩
  · intro ports h
    exact ⟨_, block_of_mem _, report_of_ne_nil h⟩
  · exact fun ports => ⟨reactingFirst_perm ports, reactingFirst_pairwise ports⟩
  · intro ports ports' hr ho
    have he : reactingFirst ports = reactingFirst ports' := by
      rw [reactingFirst, reactingFirst, hr, ho]
    have hempty : ports.isEmpty = ports'.isEmpty := by
      have hp := (reactingFirst_perm ports).symm.trans (he ▸ reactingFirst_perm ports')
      rw [Bool.eq_iff_iff, List.isEmpty_iff, List.isEmpty_iff]
      exact ⟨fun h => (h ▸ hp).symm.eq_nil, fun h => (h ▸ hp).eq_nil⟩
    rw [report_eq, report_eq, reportLines, reportLines, hempty, candidatesFirst_eq,
      candidatesFirst_eq, he]
  · intro w tokens c ports h hl hp hc
    rw [output_of_list h hl hp, hc]

/-- A port that reacts, listed behind two others, one of them twice. -/
theorem report_partitioned_behind :
    let acm : Port := ⟨"/dev/ttyACM0", .usb ⟨0x2b04, 0xd00a, some "Particle", none, some ""⟩⟩
    let com : Port := ⟨"COM1", .unknown⟩
    let w : World :=
      { files := fun _ => .error .notFound, logSpec := none, ports := .ok [com, com, acm],
        faults := fun _ => none }
    (∃ blocks, List.Forall₂ Block [acm, com, com] blocks ∧
      report false [com, com, acm] = heading ++ String.join blocks ++ footing) ∧
    report false [com, com, acm] = report false [com, acm, com] ∧
    (Program.run w ["--list"]).output = report false [com, com, acm] := by
  intro acm com w
  obtain ⟨_, blocks, _, groups, output⟩ := report_partitioned
  have ho : reactingFirst [com, com, acm] = [acm, com, com] := by decide
  refine ⟨?_, ?_, ?_⟩
  · rw [← ho]
    exact blocks [com, com, acm] (List.cons_ne_nil _ _)
  · exact groups [com, com, acm] [com, acm, com] (by decide) (by decide)
  · exact output w ["--list"] { list := true } [com, com, acm] rfl rfl rfl rfl

end MagicBaud.Port
