import MagicBaud.Proofs.Listing

namespace MagicBaud.Port

/-- What stands behind a label at the beginning of a line. -/
def behind? (label : String) (line : List Char) : Option (List Char) :=
  if label.toList.isPrefixOf line then some (line.drop label.toList.length) else none

/-- The value that the first line gives, if it is the line for it, and the lines that are left. -/
def readDetail (label : String) : List (List Char) → Option String × List (List Char)
  | [] => (none, [])
  | line :: lines =>
    match behind? label line with
    | some value => (some (String.ofList value), lines)
    | none => (none, line :: lines)

/-- The number that hexadecimal digits in small letters stand for. -/
def readHex (cs : List Char) : Nat :=
  cs.foldl (fun n c => n * 16 + if c.isDigit then c.toNat - 48 else c.toNat - 87) 0

def readDevice (lines : List (List Char)) : Option UsbDevice :=
  let (manufacturer, lines) := readDetail "    Manufacturer: " lines
  let (product, lines) := readDetail "    Product: " lines
  let (serialNumber, lines) := readDetail "    Serial: " lines
  lines.head?.bind fun line => (behind? "    VID:PID: " line).map fun ids =>
    { vid := UInt16.ofNat (readHex (ids.take 4)), pid := UInt16.ofNat (readHex (ids.drop 5)),
      manufacturer := manufacturer, product := product, serialNumber := serialNumber }

def readAttachment (name : List Char) (lines : List (List Char)) : Option Attachment :=
  if name = "USB".toList then (readDevice lines).map .usb
  else if name = "PCI".toList then some .pci
  else if name = "Bluetooth".toList then some .bluetooth
  else if name = "Unknown".toList then some .unknown
  else none

/-- The port that a block tells of. Other parts of the report have no marker in front. -/
def readBlock : List (List Char) → Option Port
  | top :: second :: lines =>
    ((behind? "[*] " top).or (behind? "[ ] " top)).bind fun path =>
      (behind? "    Type: " second).bind fun name =>
        (readAttachment name lines).map fun a => ⟨String.ofList path, a⟩
  | _ => none

/-- The ports that a report tells of, in its order. -/
def readReport (s : String) : List Port :=
  ((s.toList.splitOn '\n').splitOn []).filterMap readBlock

/-- The texts that the system gave for a port. -/
def strings (p : Port) : List String :=
  p.path :: match p.device? with
    | some d => d.manufacturer.toList ++ d.product.toList ++ d.serialNumber.toList
    | none => []

/-- No text of the port goes over the end of a line. -/
def OneLine (p : Port) : Prop := ∀ s ∈ p.strings, '\n' ∉ s.toList

instance (p : Port) : Decidable p.OneLine :=
  inferInstanceAs (Decidable (∀ s ∈ p.strings, '\n' ∉ s.toList))

theorem splitOn_ended {lines : List String} (h : ∀ line ∈ lines, '\n' ∉ line.toList) :
    (ended lines).toList.splitOn '\n' = lines.map String.toList ++ [[]] := by
  induction lines with
  | nil => rfl
  | cons line lines ih =>
    obtain ⟨hline, hlines⟩ := List.forall_mem_cons.mp h
    rw [ended_cons, String.toList_append, String.toList_append, List.append_assoc,
      List.map_cons, List.cons_append, ← ih hlines]
    exact List.splitOn_append_cons_self_of_not_mem hline _

/-- Parts that a separator stands before. -/
theorem splitOn_flatMap {α : Type} [BEq α] [LawfulBEq α] {sep : α} {first : List α}
    {parts : List (List α)} (hf : sep ∉ first) (hp : ∀ part ∈ parts, sep ∉ part) :
    (first ++ parts.flatMap (sep :: ·)).splitOn sep = first :: parts := by
  induction parts generalizing first with
  | nil =>
    rw [List.flatMap_nil, List.append_nil]
    exact List.splitOn_eq_singleton hf
  | cons part parts ih =>
    obtain ⟨hpart, hparts⟩ := List.forall_mem_cons.mp hp
    rw [List.flatMap_cons, List.cons_append, ← ih hpart hparts]
    exact List.splitOn_append_cons_self_of_not_mem hf _

theorem behind?_append (label : String) (cs : List Char) :
    behind? label (label.toList ++ cs) = some cs := by
  have hp : label.toList.isPrefixOf (label.toList ++ cs) = true :=
    List.isPrefixOf_iff_prefix.mpr (List.prefix_append _ _)
  rw [behind?, if_pos hp, List.drop_left]

theorem behind?_eq_none {label : String} {line : List Char} (h : ¬ label.toList <+: line) :
    behind? label line = none :=
  if_neg (mt List.isPrefixOf_iff_prefix.mp h)

/-- The first line, if there is one, is not the line for the label. -/
def Without (label : String) (lines : List (List Char)) : Prop :=
  ∀ line ∈ lines.head?, ¬ label.toList <+: line

theorem Without.append {label : String} {above below : List (List Char)}
    (ha : Without label above) (hb : Without label below) : Without label (above ++ below) := by
  cases above with
  | nil => exact hb
  | cons line above => exact ha

theorem without_detail {label name : String}
    (h : ∀ cs, ¬ label.toList <+: ("    " ++ name ++ ": ").toList ++ cs) (value : Option String) :
    Without label ((detail name value).map String.toList) := by
  cases value with
  | none =>
    intro line hl
    cases hl
  | some value =>
    intro line hl
    cases hl
    rw [String.toList_append]
    exact h value.toList

theorem readDetail_detail {label name : String} (hn : "    " ++ name ++ ": " = label)
    (value : Option String) {lines : List (List Char)} (hl : Without label lines) :
    readDetail label ((detail name value).map String.toList ++ lines) = (value, lines) := by
  cases value with
  | some value =>
    have hb := behind?_append label value.toList
    simp only [detail, hn, List.map_cons, List.map_nil, List.singleton_append, readDetail,
      String.toList_append, hb, String.ofList_toList]
  | none =>
    cases lines with
    | nil => rfl
    | cons line lines =>
      have hb := behind?_eq_none (hl line rfl)
      simp only [detail, List.map_nil, List.nil_append, readDetail, hb]

theorem readHex_write {width n : Nat} (h : n < Nat.pow 16 width) :
    readHex (Text.Hexadecimal.write width n) = n := by
  have digit : ∀ d < 16, (if d.digitChar.isDigit then d.digitChar.toNat - 48
      else d.digitChar.toNat - 87) = d := by decide
  induction width generalizing n with
  | zero => exact (Nat.lt_one_iff.mp h).symm
  | succ width ih =>
    have hq : n / 16 < Nat.pow 16 width := (Nat.div_lt_iff_lt_mul (by decide)).mpr h
    have hi := ih hq
    rw [readHex] at hi ⊢
    rw [Text.Hexadecimal.write, List.foldl_append, hi, List.foldl_cons, List.foldl_nil,
      digit _ (Nat.mod_lt n (by decide))]
    omega

theorem toList_hex (n : UInt16) : (hex n).toList = Text.Hexadecimal.write 4 n.toNat := by
  rw [hex, String.toList_ofList]
  exact Text.Hexadecimal.padded_eq_write (by decide) n.toNat_lt

theorem readHex_hex (n : UInt16) : UInt16.ofNat (readHex (hex n).toList) = n := by
  rw [toList_hex, readHex_write n.toNat_lt, UInt16.ofNat_toNat]

theorem readDevice_deviceLines (d : UsbDevice) :
    readDevice ((deviceLines d).map String.toList) = some d := by
  let ids := "    VID:PID: ".toList ++ ((hex d.vid).toList ++ ':' :: (hex d.pid).toList)
  have hids : ("    VID:PID: " ++ hex d.vid ++ ":" ++ hex d.pid).toList = ids := by
    simp [ids]
  have serial : readDetail "    Serial: " ((detail "Serial" d.serialNumber).map String.toList ++
      [ids]) = (d.serialNumber, [ids]) := by
    refine readDetail_detail rfl _ ?_
    rintro _ ⟨⟩
    simp [ids]
  have product : readDetail "    Product: " ((detail "Product" d.product).map String.toList ++
      ((detail "Serial" d.serialNumber).map String.toList ++ [ids])) =
        (d.product, (detail "Serial" d.serialNumber).map String.toList ++ [ids]) := by
    refine readDetail_detail rfl _ (.append (without_detail (by simp) _) ?_)
    rintro _ ⟨⟩
    simp [ids]
  have manufacturer : readDetail "    Manufacturer: "
      ((detail "Manufacturer" d.manufacturer).map String.toList ++
        ((detail "Product" d.product).map String.toList ++
          ((detail "Serial" d.serialNumber).map String.toList ++ [ids]))) =
        (d.manufacturer, (detail "Product" d.product).map String.toList ++
          ((detail "Serial" d.serialNumber).map String.toList ++ [ids])) := by
    refine readDetail_detail rfl _ (.append (without_detail (by simp) _)
      (.append (without_detail (by simp) _) ?_))
    rintro _ ⟨⟩
    simp [ids]
  have hlen : (hex d.vid).toList.length = 4 := by
    rw [toList_hex, Text.Hexadecimal.length_write]
  have hvid : ((hex d.vid).toList ++ ':' :: (hex d.pid).toList).take 4 = (hex d.vid).toList :=
    List.take_left' hlen
  have hpid : ((hex d.vid).toList ++ ':' :: (hex d.pid).toList).drop 5 = (hex d.pid).toList := by
    rw [List.append_cons]
    exact List.drop_left' (by simp [hlen])
  rw [deviceLines, List.map_append, List.map_append, List.map_append, List.append_assoc,
    List.append_assoc, List.map_singleton, hids]
  simp only [readDevice, manufacturer, product, serial, List.head?_cons, Option.bind_some, ids,
    behind?_append, Option.map_some, hvid, hpid, readHex_hex]

theorem readAttachment_lines (p : Port) :
    readAttachment p.attachment.name.toList ((match p.device? with
      | some d => deviceLines d
      | none => []).map String.toList) = some p.attachment := by
  unfold device?
  cases p.attachment with
  | usb d =>
    have hu : (Attachment.usb d).name.toList = "USB".toList := rfl
    rw [readAttachment, if_pos hu]
    exact congrArg (Option.map Attachment.usb) (readDevice_deviceLines d)
  | pci | bluetooth | unknown => rfl

theorem behind?_marker (p : Port) :
    (behind? "[*] " (p.marker false ++ " " ++ p.path).toList).or
      (behind? "[ ] " (p.marker false ++ " " ++ p.path).toList) = some p.path.toList := by
  rw [String.toList_append]
  by_cases hc : p.isCandidate
  · have hm : p.marker false ++ " " = "[*] " := by rw [marker, if_pos hc]; rfl
    rw [hm, behind?_append]
    rfl
  · have hm : p.marker false ++ " " = "[ ] " := by rw [marker, if_neg hc]; rfl
    have hn : behind? "[*] " ("[ ] ".toList ++ p.path.toList) = none := behind?_eq_none (by simp)
    rw [hm, hn, behind?_append]
    rfl

/-- The lines of a block, without the empty one in front. -/
def bodyLines (p : Port) : List (List Char) := (block false p).tail.map String.toList

theorem readBlock_bodyLines (p : Port) : readBlock p.bodyLines = some p := by
  have hname : behind? "    Type: " ("    Type: " ++ p.attachment.name).toList =
      some p.attachment.name.toList := by
    rw [String.toList_append]
    exact behind?_append _ _
  have hpath := p.behind?_marker
  have hlines := p.readAttachment_lines
  have hp : Text.Style.boldWhite.paint false p.path = p.path := rfl
  simp only [bodyLines, block, List.cons_append, List.nil_append, List.tail_cons, List.map_cons,
    readBlock, hp, hpath, hname, Option.bind_some, String.ofList_toList]
  exact congrArg (Option.map fun a => (⟨p.path, a⟩ : Port)) hlines

/-- No control characters of ASCII are among the characters. -/
def Visible (s : String) : Prop := s.toList.all (' ' ≤ ·) = true

instance (s : String) : Decidable (Visible s) :=
  inferInstanceAs (Decidable (s.toList.all (' ' ≤ ·) = true))

theorem Visible.append {s t : String} (hs : Visible s) (ht : Visible t) : Visible (s ++ t) := by
  rw [Visible, String.toList_append, List.all_append, hs, ht]
  rfl

theorem Visible.not_mem {s : String} (h : Visible s) {c : Char} (hc : c < ' ') :
    c ∉ s.toList := by
  intro hm
  have hle := List.all_eq_true.mp h c hm
  exact absurd hc (Char.not_lt.mpr (of_decide_eq_true hle))

/-- A line of a block begins with a label, and what follows came from the system or is visible. -/
def Labelled (p : Port) (line : String) : Prop :=
  ∃ label s, line = label ++ s ∧ label.toList ≠ [] ∧ Visible label ∧ (s ∈ p.strings ∨ Visible s)

theorem labelled_of_mem_detail {p : Port} {label line : String} {value : Option String}
    (hl : Visible ("    " ++ label ++ ": ")) (hv : ∀ s ∈ value, s ∈ p.strings)
    (h : line ∈ detail label value) : p.Labelled line := by
  cases value with
  | none => cases h
  | some s =>
    rw [List.mem_singleton.mp h]
    exact ⟨_, s, rfl, by simp, hl, .inl (hv s rfl)⟩

theorem visible_hex (n : UInt16) : Visible (hex n) := by
  have digits : ∀ width m, (Text.Hexadecimal.write width m).all (' ' ≤ ·) = true := by
    intro width
    induction width with
    | zero => exact fun m => rfl
    | succ width ih =>
      intro m
      have hd : ∀ d < 16, ' ' ≤ d.digitChar := by decide
      rw [Text.Hexadecimal.write, List.all_append, ih, Bool.true_and, List.all_cons, List.all_nil,
        Bool.and_true]
      exact decide_eq_true (hd _ (Nat.mod_lt m (by decide)))
  rw [Visible, toList_hex]
  exact digits 4 n.toNat

theorem visible_name (a : Attachment) : Visible a.name := by
  cases a with
  | usb d =>
    have hu : Visible "USB" := by decide
    exact hu
  | pci | bluetooth | unknown => decide

theorem labelled_of_mem_deviceLines {p : Port} {d : UsbDevice} {line : String}
    (hd : p.device? = some d) (h : line ∈ deviceLines d) : p.Labelled line := by
  have hs : ∀ s, s ∈ d.manufacturer ∨ s ∈ d.product ∨ s ∈ d.serialNumber → s ∈ p.strings := by
    intro s hs
    rw [strings, hd]
    simpa [or_assoc] using .inr hs
  simp only [deviceLines, List.mem_append, List.mem_singleton] at h
  rcases h with ((h | h) | h) | rfl
  · exact labelled_of_mem_detail (by decide) (fun s hm => hs s (.inl hm)) h
  · exact labelled_of_mem_detail (by decide) (fun s hm => hs s (.inr (.inl hm))) h
  · exact labelled_of_mem_detail (by decide) (fun s hm => hs s (.inr (.inr hm))) h
  · refine ⟨"    VID:PID: ", hex d.vid ++ ":" ++ hex d.pid, ?_, by decide, by decide, .inr ?_⟩
    · simp only [String.append_assoc]
    · exact ((visible_hex d.vid).append (by decide)).append (visible_hex d.pid)

theorem labelled_of_mem_block {p : Port} {line : String} (h : line ∈ (block false p).tail) :
    p.Labelled line := by
  simp only [block, List.cons_append, List.nil_append, List.tail_cons, List.mem_cons] at h
  rcases h with rfl | rfl | h
  · have hm : (p.marker false ++ " ").toList ≠ [] ∧ Visible (p.marker false ++ " ") := by
      unfold marker
      split <;> decide
    exact ⟨_, _, rfl, hm.1, hm.2, .inl List.mem_cons_self⟩
  · exact ⟨_, _, rfl, by decide, by decide, .inr (visible_name p.attachment)⟩
  · cases hd : p.device? with
    | none =>
      rw [hd] at h
      cases h
    | some d =>
      rw [hd] at h
      exact labelled_of_mem_deviceLines hd h

theorem Labelled.ne_empty {p : Port} {line : String} (h : p.Labelled line) : line.toList ≠ [] := by
  obtain ⟨label, s, rfl, hn, _, _⟩ := h
  simp [hn]

theorem Labelled.not_mem {p : Port} {line : String} {c : Char} (h : p.Labelled line)
    (hc : c < ' ') (hp : ∀ s ∈ p.strings, c ∉ s.toList) : c ∉ line.toList := by
  obtain ⟨label, s, rfl, _, hl, hs⟩ := h
  have hs' : c ∉ s.toList := hs.elim (hp s) fun hv => hv.not_mem hc
  simp [hl.not_mem hc, hs']

def headingLines : List String := ["Available Serial Ports:", ruler]

def footingLines : List String :=
  [ruler, "Ports marked [*] are CDC-ACM devices. Use: serial-switcher <BAUD> <PORT>"]

theorem reportLines_of_ne_nil {ports : List Port} (h : ports ≠ []) :
    reportLines false ports =
      headingLines ++ (reactingFirst ports).flatMap (block false) ++ "" :: footingLines := by
  have he : ports.isEmpty = false := by simpa using h
  rw [reportLines, he, candidatesFirst_eq]
  rfl

theorem block_eq_cons (p : Port) : block false p = "" :: (block false p).tail := rfl

theorem not_mem_block {p : Port} {c : Char} (hc : c < ' ')
    (h : ∀ s ∈ p.strings, c ∉ s.toList) : ∀ line ∈ block false p, c ∉ line.toList := by
  intro line hl
  rw [block_eq_cons] at hl
  rcases List.mem_cons.mp hl with rfl | hl
  · exact List.not_mem_nil
  · exact (labelled_of_mem_block hl).not_mem hc h

/-- A control character in a report came from the system. -/
theorem not_mem_reportLines {ports : List Port} {c : Char} (hc : c < ' ')
    (h : ∀ p ∈ ports, ∀ s ∈ p.strings, c ∉ s.toList) :
    ∀ line ∈ reportLines false ports, c ∉ line.toList := by
  intro line hl
  by_cases hn : ports = []
  · subst hn
    have hfixed : ∀ line ∈ advice false, Visible line := by decide +kernel
    exact (hfixed line hl).not_mem hc
  · have hfixed : ∀ line ∈ headingLines ++ "" :: footingLines, Visible line := by
      decide +kernel
    rw [reportLines_of_ne_nil hn] at hl
    rcases List.mem_append.mp hl with hl | hl
    · rcases List.mem_append.mp hl with hl | hl
      · exact (hfixed line (List.mem_append_left _ hl)).not_mem hc
      · obtain ⟨p, hp, hl⟩ := List.mem_flatMap.mp hl
        exact not_mem_block hc (h p ((reactingFirst_perm ports).subset hp)) line hl
    · exact (hfixed line (List.mem_append_right _ hl)).not_mem hc

theorem readReport_nil : readReport (report false []) = [] := by
  have hl : ∀ line ∈ reportLines false [], '\n' ∉ line.toList :=
    not_mem_reportLines (by decide) fun _ hp => absurd hp List.not_mem_nil
  rw [readReport, report_eq, splitOn_ended hl]
  decide

/-- The parts of a report between empty lines: the heading, the blocks and the footing, and what
stands behind the end of the last line. -/
theorem splitOn_report {ports : List Port} (hn : ports ≠ []) (h : ∀ p ∈ ports, p.OneLine) :
    ((report false ports).toList.splitOn '\n').splitOn [] =
      headingLines.map String.toList ::
        ((reactingFirst ports).map bodyLines ++ [footingLines.map String.toList, []]) := by
  have hblocks : ((reactingFirst ports).flatMap (block false)).map String.toList =
      ((reactingFirst ports).map bodyLines).flatMap ([] :: ·) := by
    rw [List.map_flatMap, List.flatMap_map]
    rfl
  have hparts : (reportLines false ports).map String.toList ++ [[]] =
      headingLines.map String.toList ++ ((reactingFirst ports).map bodyLines ++
        [footingLines.map String.toList, []]).flatMap ([] :: ·) := by
    rw [reportLines_of_ne_nil hn, List.map_append, List.map_append, hblocks, List.flatMap_append,
      List.append_assoc, List.append_assoc]
    rfl
  rw [report_eq, splitOn_ended (not_mem_reportLines (by decide) h), hparts]
  refine splitOn_flatMap (by decide) fun part hp => ?_
  rcases List.mem_append.mp hp with hp | hp
  · obtain ⟨p, _, rfl⟩ := List.mem_map.mp hp
    intro hm
    obtain ⟨line, hl, he⟩ := List.mem_map.mp hm
    exact (labelled_of_mem_block hl).ne_empty he
  · have hfixed : ∀ part ∈ [footingLines.map String.toList, []], [] ∉ part := by decide
    exact hfixed part hp

theorem readReport_report {ports : List Port} (h : ∀ p ∈ ports, p.OneLine) :
    readReport (report false ports) = reactingFirst ports := by
  by_cases hn : ports = []
  · rw [hn, readReport_nil]
    rfl
  · have hheading : readBlock (headingLines.map String.toList) = none := by decide
    have hfooting : [footingLines.map String.toList, []].filterMap readBlock = [] := by decide
    rw [readReport, splitOn_report hn h, List.filterMap_cons_none hheading, List.filterMap_append,
      hfooting, List.append_nil, List.filterMap_map]
    have hread : readBlock ∘ bodyLines = some := funext readBlock_bodyLines
    rw [hread, List.filterMap_some]

/-- Each group is kept in the order of the report. -/
theorem filter_reactingFirst (ports : List Port) :
    (reactingFirst ports).filter (fun p => p.Reacts) = ports.filter (fun p => p.Reacts) ∧
      (reactingFirst ports).filter (fun p => ¬ p.Reacts) = ports.filter (fun p => ¬ p.Reacts) := by
  constructor <;> simp [reactingFirst, List.filter_append, List.filter_filter]

/-- The report without colours tells everything. The ports are read back from it in the order in
which it lists them, so that machines with the same report have the same ports in both groups; and
it makes no difference whether it is read from the output of a process. -/
theorem report_recovered :
    (∀ ports : List Port, (∀ p ∈ ports, p.OneLine) →
      readReport (report false ports) = reactingFirst ports) ∧
    (∀ ports ports' : List Port, (∀ p ∈ ports, p.OneLine) → (∀ p ∈ ports', p.OneLine) →
      report false ports = report false ports' →
      ports.filter (fun p => p.Reacts) = ports'.filter (fun p => p.Reacts) ∧
        ports.filter (fun p => ¬ p.Reacts) = ports'.filter (fun p => ¬ p.Reacts)) ∧
    ∀ (w : World) (tokens : List String) (c : CommandLine) (ports : List Port),
      CommandLine.parse tokens = .ok c → c.list = true → w.ports = .ok ports → w.colour = false →
      (∀ p ∈ ports, p.OneLine) →
      readReport (Program.run w tokens).output = reactingFirst ports := by
  refine ⟨fun ports h => readReport_report h, ?_, ?_⟩
  · intro ports ports' h h' he
    have ho : reactingFirst ports = reactingFirst ports' := by
      rw [← readReport_report h, ← readReport_report h', he]
    obtain ⟨hr, hn⟩ := filter_reactingFirst ports
    obtain ⟨hr', hn'⟩ := filter_reactingFirst ports'
    exact ⟨by rw [← hr, ← hr', ho], by rw [← hn, ← hn', ho]⟩
  · intro w tokens c ports hc hl hp hcolour h
    rw [output_of_list hc hl hp, hcolour, readReport_report h]

/-- A path like a ruler, and texts like lines of other blocks. -/
theorem report_recovered_lookalike :
    let ruled : Port := ⟨ruler, .unknown⟩
    let labelled : Port := ⟨"[*] /dev/ttyACM0",
      .usb ⟨0x1, 0xabcd, some "Serial: 1", some "    VID:PID: 0000:0000", some ""⟩⟩
    let w : World :=
      { files := fun _ => .error .notFound, logSpec := none, ports := .ok [ruled, labelled],
        faults := fun _ => none }
    readReport (report false [ruled, labelled]) = [labelled, ruled] ∧
      readReport (Program.run w ["-l"]).output = [labelled, ruled] := by
  intro ruled labelled w
  have ho : reactingFirst [ruled, labelled] = [labelled, ruled] := by decide
  have hl : ∀ p ∈ [ruled, labelled], p.OneLine := by decide
  obtain ⟨recovered, _, output⟩ := report_recovered
  rw [← ho]
  exact ⟨recovered _ hl, output w ["-l"] { list := true } _ rfl rfl rfl rfl hl⟩

end MagicBaud.Port
