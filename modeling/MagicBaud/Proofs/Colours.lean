import MagicBaud.Proofs.Recovery

namespace MagicBaud

namespace Text

/-- What the numbers of styles are written in. -/
def IsCode (c : Char) : Prop := c.isDigit = true ∨ c = ';'

instance (c : Char) : Decidable (IsCode c) :=
  inferInstanceAs (Decidable (c.isDigit = true ∨ c = ';'))

/-- A sequence that sets a style: an escape, a bracket, digits and semicolons, and an `m`. -/
def IsStyleSequence (seq : List Char) : Prop :=
  ∃ codes, (∀ c ∈ codes, IsCode c) ∧ seq = escape :: '[' :: codes ++ ['m']

/-- What is left of a text after one pass from the left that drops every style sequence. -/
inductive Stripped : List Char → List Char → Prop
  | nil : Stripped [] []
  | drop {seq cs ts : List Char} (hs : IsStyleSequence seq) (h : Stripped cs ts) :
      Stripped (seq ++ cs) ts
  | keep {c : Char} {cs ts : List Char} (hn : ∀ seq, IsStyleSequence seq → ¬ seq <+: c :: cs)
      (h : Stripped cs ts) : Stripped (c :: cs) (c :: ts)

theorem IsCode.ne_m {c : Char} (h : IsCode c) : c ≠ 'm' := by
  rintro rfl
  exact absurd h (by decide)

theorem afterCodes_append {codes cs : List Char} (h : ∀ c ∈ codes, IsCode c) :
    afterCodes (codes ++ 'm' :: cs) = some cs := by
  induction codes with
  | nil => rfl
  | cons c codes ih =>
    obtain ⟨hc, hcodes⟩ := List.forall_mem_cons.mp h
    have hcode : (c.isDigit || c = ';') = true := by simpa [IsCode] using hc
    rw [List.cons_append, afterCodes, if_neg hc.ne_m, if_pos hcode, ih hcodes]

theorem exists_codes {cs rest : List Char} (h : afterCodes cs = some rest) :
    ∃ codes, (∀ c ∈ codes, IsCode c) ∧ cs = codes ++ 'm' :: rest := by
  induction cs with
  | nil => cases h
  | cons c cs ih =>
    rw [afterCodes] at h
    split at h
    · rename_i hm
      cases h
      exact ⟨[], by simp, by rw [hm]; rfl⟩
    · split at h
      · rename_i hcode
        obtain ⟨codes, hcodes, rfl⟩ := ih h
        have hc : IsCode c := by simpa [IsCode] using hcode
        exact ⟨c :: codes, List.forall_mem_cons.mpr ⟨hc, hcodes⟩, rfl⟩
      · cases h

theorem stripStyles_drop {seq cs : List Char} (h : IsStyleSequence seq) :
    stripStyles (seq ++ cs) = stripStyles cs := by
  obtain ⟨codes, hcodes, rfl⟩ := h
  have ha : afterCodes (codes ++ ['m'] ++ cs) = some cs := by
    rw [List.append_assoc]
    exact afterCodes_append hcodes
  change stripStyles ('\x1b' :: '[' :: (codes ++ ['m'] ++ cs)) = stripStyles cs
  rw [stripStyles]
  split
  · rename_i rest hr
    rw [ha] at hr
    cases hr
    rfl
  · rename_i hr
    rw [ha] at hr
    cases hr

theorem stripStyles_keep {c : Char} {cs : List Char}
    (h : ∀ seq, IsStyleSequence seq → ¬ seq <+: c :: cs) :
    stripStyles (c :: cs) = c :: stripStyles cs := by
  by_cases hb : ∃ rest, c = '\x1b' ∧ cs = '[' :: rest
  · obtain ⟨rest, rfl, rfl⟩ := hb
    rw [stripStyles]
    split
    · rename_i after ha
      obtain ⟨codes, hcodes, rfl⟩ := exists_codes ha
      refine absurd ?_ (h _ ⟨codes, hcodes, rfl⟩)
      exact ⟨after, by simp [escape]⟩
    · rfl
  · rw [stripStyles]
    exact fun rest hc hcs => hb ⟨rest, hc, hcs⟩

theorem Stripped.eq {cs ts : List Char} (h : Stripped cs ts) : stripStyles cs = ts := by
  induction h with
  | nil => rw [stripStyles]
  | drop hs _ ih => rw [stripStyles_drop hs, ih]
  | keep hn _ ih => rw [stripStyles_keep hn, ih]

theorem IsStyleSequence.length_pos {seq : List Char} (h : IsStyleSequence seq) :
    0 < seq.length := by
  obtain ⟨codes, _, rfl⟩ := h
  exact Nat.zero_lt_succ _

theorem exists_stripped (cs : List Char) : ∃ ts, Stripped cs ts := by
  by_cases h : ∃ seq rest, IsStyleSequence seq ∧ cs = seq ++ rest
  · obtain ⟨seq, rest, hs, rfl⟩ := h
    have hpos := hs.length_pos
    obtain ⟨ts, ht⟩ := exists_stripped rest
    exact ⟨ts, .drop hs ht⟩
  · cases cs with
    | nil => exact ⟨[], .nil⟩
    | cons c cs =>
      obtain ⟨ts, ht⟩ := exists_stripped cs
      refine ⟨c :: ts, .keep ?_ ht⟩
      rintro seq hs ⟨rest, he⟩
      exact h ⟨seq, rest, hs, he.symm⟩
termination_by cs.length
decreasing_by all_goals simp_all

theorem stripStyles_eq_iff {cs ts : List Char} : stripStyles cs = ts ↔ Stripped cs ts := by
  constructor
  · rintro rfl
    obtain ⟨ts, h⟩ := exists_stripped cs
    rwa [h.eq]
  · exact Stripped.eq

theorem stripped_stripStyles (cs : List Char) : Stripped cs (stripStyles cs) :=
  stripStyles_eq_iff.mp rfl

/-- The characters of a style sequence behind its escape. -/
def IsBody (c : Char) : Prop := c = '[' ∨ IsCode c ∨ c = 'm'

instance (c : Char) : Decidable (IsBody c) :=
  inferInstanceAs (Decidable (c = '[' ∨ IsCode c ∨ c = 'm'))

/-- The text does not begin like the rest of a style sequence, so that it completes none. -/
def Fresh (cs : List Char) : Prop := ∀ c ∈ cs.head?, ¬ IsBody c

theorem fresh_cons {c : Char} {cs : List Char} (h : ¬ IsBody c) : Fresh (c :: cs) := by
  rintro d ⟨⟩
  exact h

theorem IsStyleSequence.body {seq : List Char} (h : IsStyleSequence seq) :
    ∃ body, seq = escape :: body ∧ ∀ c ∈ body, IsBody c := by
  obtain ⟨codes, hcodes, rfl⟩ := h
  refine ⟨'[' :: codes ++ ['m'], rfl, ?_⟩
  intro c hc
  simp only [List.cons_append, List.mem_cons, List.mem_append, List.not_mem_nil, or_false] at hc
  rcases hc with rfl | hc | rfl
  · exact .inl rfl
  · exact .inr (.inl (hcodes c hc))
  · exact .inr (.inr rfl)

theorem not_isBody_escape : ¬ IsBody escape := by decide

theorem IsStyleSequence.escape_not_mem {body : List Char} (h : IsStyleSequence (escape :: body)) :
    escape ∉ body := by
  obtain ⟨body', he, hb⟩ := h.body
  cases he
  exact fun hm => not_isBody_escape (hb escape hm)

theorem IsStyleSequence.head_eq {seq cs : List Char} {c : Char} (h : IsStyleSequence seq)
    (hp : seq <+: c :: cs) : c = escape := by
  obtain ⟨body, rfl, _⟩ := h.body
  exact (List.cons_prefix_cons.mp hp).1.symm

/-- Two style sequences that begin alike are one. -/
theorem IsStyleSequence.append_inj {seq seq' cs cs' : List Char} (h : IsStyleSequence seq)
    (h' : IsStyleSequence seq') (he : seq ++ cs = seq' ++ cs') : seq = seq' ∧ cs = cs' := by
  obtain ⟨codes, hcodes, rfl⟩ := h
  obtain ⟨codes', hcodes', rfl⟩ := h'
  have hrest : codes ++ 'm' :: cs = codes' ++ 'm' :: cs' := by simpa using he
  have hcs : some cs = some cs' := by
    rw [← afterCodes_append hcodes, hrest, afterCodes_append hcodes']
  cases hcs
  exact ⟨List.append_cancel_right he, rfl⟩

/-- A style sequence that begins in a text does not reach into a fresh one behind it. -/
theorem IsStyleSequence.within {seq cs rest : List Char} (h : IsStyleSequence seq)
    (hf : Fresh rest) (hc : cs ≠ []) (hp : seq <+: cs ++ rest) : seq <+: cs := by
  obtain ⟨after, he⟩ := hp
  rcases List.append_eq_append_iff.mp he with ⟨mid, rfl, _⟩ | ⟨mid, rfl, hr⟩
  · exact List.prefix_append seq mid
  · cases mid with
    | nil => simp
    | cons d mid =>
      obtain ⟨body, hb, hbody⟩ := h.body
      obtain ⟨c, cs, rfl⟩ := List.exists_cons_of_ne_nil hc
      rw [List.cons_append, List.cons.injEq] at hb
      have hd : d ∈ body := by simp [← hb.2]
      rw [hr] at hf
      exact absurd (hbody d hd) (hf d rfl)

theorem Stripped.append {cs ts rest us : List Char} (h : Stripped cs ts) (hr : Stripped rest us)
    (hf : Fresh rest) : Stripped (cs ++ rest) (ts ++ us) := by
  induction h with
  | nil => exact hr
  | drop hs _ ih =>
    rw [List.append_assoc]
    exact .drop hs ih
  | keep hn _ ih =>
    refine .keep ?_ ih
    intro seq hs hp
    exact hn seq hs (hs.within hf (List.cons_ne_nil _ _) hp)

theorem stripStyles_append {cs rest : List Char} (hf : Fresh rest) :
    stripStyles (cs ++ rest) = stripStyles cs ++ stripStyles rest :=
  ((stripped_stripStyles cs).append (stripped_stripStyles rest) hf).eq

theorem stripStyles_cons {c : Char} {cs : List Char} (h : c ≠ escape) :
    stripStyles (c :: cs) = c :: stripStyles cs :=
  stripStyles_keep fun _ hs hp => h (hs.head_eq hp)

/-- A text without an escape stays as it is. -/
theorem stripStyles_of_not_mem {cs : List Char} (h : escape ∉ cs) : stripStyles cs = cs := by
  induction cs with
  | nil => rw [stripStyles]
  | cons c cs ih =>
    rw [List.mem_cons, not_or] at h
    rw [stripStyles_cons (Ne.symm h.1), ih h.2]

namespace Style

theorem isStyleSequence_reset : IsStyleSequence reset := by
  refine ⟨['0'], ?_, rfl⟩
  intro c hc
  rw [List.mem_singleton.mp hc]
  exact .inl rfl

variable {opening cs ts : List Char}

theorem reopen_reset : reopen opening (reset ++ cs) = reset ++ (opening ++ reopen opening cs) := by
  change reopen opening ('\x1b' :: '[' :: '0' :: 'm' :: cs) = _
  rw [reopen, List.append_assoc]

theorem reopen_cons {c : Char} (h : ¬ reset <+: c :: cs) :
    reopen opening (c :: cs) = c :: reopen opening cs := by
  rw [reopen]
  rintro rest rfl rfl
  exact h (List.prefix_append reset rest)

theorem not_reset_of_ne {c : Char} (h : c ≠ escape) : ¬ reset <+: c :: cs :=
  fun hp => h (isStyleSequence_reset.head_eq hp)

theorem reopen_append {body : List Char} (h : escape ∉ body) :
    reopen opening (body ++ cs) = body ++ reopen opening cs := by
  induction body with
  | nil => rfl
  | cons c body ih =>
    rw [List.mem_cons, not_or] at h
    rw [List.cons_append, reopen_cons (not_reset_of_ne (Ne.symm h.1)), ih h.2]
    rfl

/-- What stands in a text up to the next escape stood there before. -/
theorem prefix_of_reopen {body : List Char} (h : escape ∉ body)
    (hp : body <+: reopen opening cs) : body <+: cs := by
  induction body generalizing cs with
  | nil => exact List.nil_prefix
  | cons b body ih =>
    rw [List.mem_cons, not_or] at h
    cases cs with
    | nil => exact hp
    | cons c cs =>
      by_cases hr : reset <+: c :: cs
      · obtain ⟨rest, he⟩ := hr
        rw [← he, reopen_reset] at hp
        exact absurd (List.cons_prefix_cons.mp hp).1.symm h.1
      · rw [reopen_cons hr, List.cons_prefix_cons] at hp
        exact List.cons_prefix_cons.mpr ⟨hp.1, ih h.2 hp.2⟩

/-- Openings that are put in behind resets are dropped, and put nothing together that was apart. -/
theorem stripped_reopen (ho : IsStyleSequence opening) (h : Stripped cs ts) :
    Stripped (reopen opening cs) ts := by
  induction h with
  | nil => exact .nil
  | @drop seq cs ts hs _ ih =>
    by_cases hr : reset <+: seq ++ cs
    · obtain ⟨rest, he⟩ := hr
      obtain ⟨rfl, rfl⟩ := isStyleSequence_reset.append_inj hs he
      rw [reopen_reset]
      exact .drop isStyleSequence_reset (.drop ho ih)
    · obtain ⟨body, rfl, _⟩ := hs.body
      rw [List.cons_append] at hr ⊢
      rw [reopen_cons hr, reopen_append hs.escape_not_mem]
      exact .drop hs ih
  | @keep c cs ts hn _ ih =>
    rw [reopen_cons (hn reset isStyleSequence_reset)]
    refine .keep ?_ ih
    intro seq hs hp
    obtain ⟨body, rfl, _⟩ := hs.body
    rw [List.cons_prefix_cons] at hp
    refine hn _ hs (List.cons_prefix_cons.mpr ⟨hp.1, ?_⟩)
    exact prefix_of_reopen hs.escape_not_mem hp.2

theorem stripStyles_paint {style : Style} (ho : IsStyleSequence style.opening) (colour : Bool)
    (text : String) : stripStyles (style.paint colour text).toList = stripStyles text.toList := by
  cases colour with
  | false => rfl
  | true =>
    have hreset : Stripped (reset ++ []) [] := .drop isStyleSequence_reset .nil
    have hfresh : Fresh (reset ++ []) := fresh_cons not_isBody_escape
    have htext := (stripped_reopen ho (stripped_stripStyles text.toList)).append hreset hfresh
    rw [List.append_nil, List.append_nil] at htext
    have hall : (style.paint true text).toList =
        style.opening ++ (reopen style.opening text.toList ++ reset) := by
      rw [paint, if_pos rfl, String.toList_ofList, List.append_assoc]
    rw [hall]
    exact (Stripped.drop ho htext).eq

theorem isStyleSequence_ofCodes {codes : String}
    (h : codes.toList.all (fun c => c.isDigit || c == ';') = true) :
    IsStyleSequence (ofCodes codes).opening := by
  refine ⟨codes.toList, ?_, rfl⟩
  intro c hc
  simpa [IsCode] using List.all_eq_true.mp h c hc

end Style

end Text

namespace Port
open Text

/-- What a line shows. -/
def bare (line : String) : List Char := stripStyles line.toList

theorem bare_spaced (s t : String) : bare (s ++ " " ++ t) = bare s ++ ' ' :: bare t := by
  have hl : (s ++ " " ++ t).toList = s.toList ++ ' ' :: t.toList := by simp
  rw [bare, hl, stripStyles_append (fresh_cons (by decide)), stripStyles_cons (by decide)]
  rfl

theorem stripStyles_ended (lines : List String) :
    stripStyles (ended lines).toList = (lines.map bare).flatMap (· ++ ['\n']) := by
  induction lines with
  | nil => exact stripStyles_of_not_mem List.not_mem_nil
  | cons line lines ih =>
    have hl : (ended (line :: lines)).toList = line.toList ++ '\n' :: (ended lines).toList := by
      simp [ended_cons]
    rw [hl, stripStyles_append (fresh_cons (by decide)), stripStyles_cons (by decide), ih]
    simp [bare]

theorem bare_paint {codes : String}
    (h : codes.toList.all (fun c => c.isDigit || c == ';') = true) (colour : Bool) (text : String) :
    bare ((Style.ofCodes codes).paint colour text) = bare text :=
  Style.stripStyles_paint (Style.isStyleSequence_ofCodes h) colour text

theorem bare_marker (colour : Bool) (p : Port) : bare (p.marker colour) = bare (p.marker false) := by
  unfold marker
  split
  · exact bare_paint (by decide) colour "[*]"
  · exact bare_paint (by decide) colour "[ ]"

theorem map_bare_block (colour : Bool) (p : Port) :
    (block colour p).map bare = (block false p).map bare := by
  have hpath : bare (Style.boldWhite.paint colour p.path) = bare p.path :=
    bare_paint (by decide) colour p.path
  simp only [block, List.cons_append, List.nil_append, List.map_cons, bare_spaced,
    bare_marker colour, hpath]
  rfl

theorem map_bare_advice (colour : Bool) :
    (advice colour).map bare = (advice false).map bare := by
  have hnone : bare (Style.yellow.paint colour "No serial ports found") =
      bare "No serial ports found" := bare_paint (by decide) colour _
  have htips : bare (Style.boldCyan.paint colour "Troubleshooting tips:") =
      bare "Troubleshooting tips:" := bare_paint (by decide) colour _
  simp only [advice, List.map_cons, hnone, htips]
  rfl

/-- Line by line a report shows the same in colours and without. -/
theorem map_bare_reportLines (colour : Bool) (ports : List Port) :
    (reportLines colour ports).map bare = (reportLines false ports).map bare := by
  unfold reportLines
  split
  · exact map_bare_advice colour
  · have hheading : bare (Style.boldGreen.paint colour "Available Serial Ports:") =
        bare "Available Serial Ports:" := bare_paint (by decide) colour _
    have hfooting : bare (Style.yellow.paint colour
        "Ports marked [*] are CDC-ACM devices. Use: serial-switcher <BAUD> <PORT>") =
        bare "Ports marked [*] are CDC-ACM devices. Use: serial-switcher <BAUD> <PORT>" :=
      bare_paint (by decide) colour _
    simp only [List.map_append, List.map_cons, List.map_flatMap, map_bare_block colour, hheading,
      hfooting]
    rfl

theorem stripStyles_report (colour : Bool) (ports : List Port) :
    stripStyles (report colour ports).toList = stripStyles (report false ports).toList := by
  rw [report_eq, report_eq, stripStyles_ended, stripStyles_ended, map_bare_reportLines]

theorem not_mem_ended {lines : List String} {c : Char} (hc : c ≠ '\n')
    (h : ∀ line ∈ lines, c ∉ line.toList) : c ∉ (ended lines).toList := by
  induction lines with
  | nil => exact List.not_mem_nil
  | cons line lines ih =>
    obtain ⟨hline, hlines⟩ := List.forall_mem_cons.mp h
    simp [ended_cons, hline, hc, ih hlines]

/-- No text of the port has an escape in it. -/
def Unescaped (p : Port) : Prop := ∀ s ∈ p.strings, escape ∉ s.toList

instance (p : Port) : Decidable p.Unescaped :=
  inferInstanceAs (Decidable (∀ s ∈ p.strings, escape ∉ s.toList))

theorem stripStyles_plain_report {ports : List Port} (h : ∀ p ∈ ports, p.Unescaped) :
    stripStyles (report false ports).toList = (report false ports).toList :=
  stripStyles_of_not_mem (not_mem_ended (by decide) (not_mem_reportLines (by decide) h))

end Port

/-- What is left of an outcome without the output. -/
def Outcome.unprinted (o : Outcome) : Outcome := { o with output := "" }

/-- Only a list is printed in colours. -/
theorem CommandLine.work_recoloured (w : World) {c : CommandLine} (h : c.list = false)
    (colour : Bool) : c.work { w with colour := colour } = c.work w := by
  cases hs : c.settings w.files with
  | error e =>
    have hs' : c.settings ({ w with colour := colour } : World).files = .error e := hs
    rw [work_unloaded h hs, work_unloaded h hs']
  | ok s =>
    have hs' : c.settings ({ w with colour := colour } : World).files = .ok s := hs
    rw [work_switch h hs, work_switch h hs']
    rfl

theorem Work.ofListing_recoloured (spec : String) (colour : Bool)
    (ports : Except Fault (List Port)) :
    Text.stripStyles (Outcome.ofWork spec (ofListing colour ports)).output.toList =
        Text.stripStyles (Outcome.ofWork spec (ofListing false ports)).output.toList ∧
      (Outcome.ofWork spec (ofListing colour ports)).unprinted =
        (Outcome.ofWork spec (ofListing false ports)).unprinted := by
  cases ports with
  | error fault => exact ⟨rfl, rfl⟩
  | ok ports => exact ⟨Port.stripStyles_report colour ports, rfl⟩

theorem Program.run_recoloured (w : World) (tokens : List String) (colour : Bool) :
    Text.stripStyles (run { w with colour := colour } tokens).output.toList =
        Text.stripStyles (run { w with colour := false } tokens).output.toList ∧
      (run { w with colour := colour } tokens).unprinted =
        (run { w with colour := false } tokens).unprinted := by
  cases h : CommandLine.parse tokens with
  | error reply =>
    rw [run_answered h, run_answered h]
    exact ⟨rfl, rfl⟩
  | ok c =>
    rw [run_accepted h, run_accepted h]
    cases hl : c.list with
    | true =>
      rw [CommandLine.work_list hl, CommandLine.work_list hl]
      exact Work.ofListing_recoloured _ colour w.ports
    | false =>
      rw [CommandLine.work_recoloured w hl colour, CommandLine.work_recoloured w hl false]
      exact ⟨rfl, rfl⟩

namespace Port
open Text

/-- Colours change how a report looks and nothing else. One pass that drops all style sequences
leaves the same of the report in colours and of the plain one, which stays as it is if no text of a
port has an escape; and the rest of what a process does is the same. -/
theorem report_coloured :
    (∀ cs ts : List Char, stripStyles cs = ts ↔ Stripped cs ts) ∧
    (∀ ports : List Port,
      stripStyles (report true ports).toList = stripStyles (report false ports).toList) ∧
    (∀ ports : List Port, (∀ p ∈ ports, p.Unescaped) →
      stripStyles (report true ports).toList = (report false ports).toList) ∧
    ∀ (w : World) (tokens : List String),
      stripStyles (Program.run { w with colour := true } tokens).output.toList =
          stripStyles (Program.run { w with colour := false } tokens).output.toList ∧
        (Program.run { w with colour := true } tokens).unprinted =
          (Program.run { w with colour := false } tokens).unprinted := by
  refine ⟨fun cs ts => stripStyles_eq_iff, stripStyles_report true, ?_, ?_⟩
  · intro ports h
    rw [stripStyles_report, stripStyles_plain_report h]
  · exact fun w tokens => Program.run_recoloured w tokens true

/-- A path with a reset within what looks like another sequence and an unfinished one at its end, and
a port whose texts have no escapes. -/
theorem report_coloured_unfinished :
    let odd : Port := ⟨"\x1b[\x1b[0m31mCOM1\x1b[3", .unknown⟩
    let named : Port := ⟨"/dev/ttyACM0", .usb ⟨0x2b04, 0xd00a, some "[0m", none, some ""⟩⟩
    stripStyles (report true [odd, named]).toList =
        stripStyles (report false [odd, named]).toList ∧
      stripStyles (report true [named]).toList = (report false [named]).toList := by
  intro odd named
  obtain ⟨_, alike, plain, _⟩ := report_coloured
  exact ⟨alike [odd, named], plain [named] (by decide)⟩

end Port
end MagicBaud
