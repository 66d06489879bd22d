import MagicBaud.Program

namespace MagicBaud

namespace Text

/-- The texts stand in the whole one, one behind the other. -/
inductive InTurn : List String → String → Prop
  | nil (rest : String) : InTurn [] rest
  | cons (skipped : String) {text rest : String} {texts : List String} (h : InTurn texts rest) :
      InTurn (text :: texts) (skipped ++ text ++ rest)

namespace InTurn
variable {texts texts' : List String} {whole whole' : String}

theorem behind (h : InTurn texts whole) (front : String) : InTurn texts (front ++ whole) := by
  cases h with
  | nil => exact .nil _
  | cons skipped h =>
    rw [← String.append_assoc, ← String.append_assoc]
    exact .cons _ h

theorem append (h : InTurn texts whole) (h' : InTurn texts' whole') :
    InTurn (texts ++ texts') (whole ++ whole') := by
  induction h with
  | nil rest => exact h'.behind rest
  | cons skipped _ ih =>
    rw [String.append_assoc, List.cons_append]
    exact .cons skipped ih

theorem before (h : InTurn texts whole) (back : String) : InTurn texts (whole ++ back) := by
  have hb := h.append (.nil back)
  rwa [List.append_nil] at hb

theorem single (text : String) : InTurn [text] text := by
  have h : InTurn [text] ("" ++ text ++ "") := .cons "" (.nil "")
  rwa [String.empty_append, String.append_empty] at h

theorem filter (h : InTurn texts whole) (p : String → Bool) : InTurn (texts.filter p) whole := by
  induction h with
  | nil rest => exact .nil rest
  | @cons skipped text rest texts _ ih =>
    rw [List.filter_cons]
    split
    · exact .cons skipped ih
    · exact ih.behind _

variable {α : Type} {parts : α → List String} {written : α → String} {xs : List α}

theorem join (h : ∀ x ∈ xs, InTurn (parts x) (written x)) :
    InTurn (xs.flatMap parts) (String.join (xs.map written)) := by
  induction xs with
  | nil => exact .nil _
  | cons x xs ih =>
    obtain ⟨hx, hxs⟩ := List.forall_mem_cons.mp h
    rw [List.flatMap_cons, List.map_cons, String.join_cons]
    exact hx.append (ih hxs)

theorem intercalate (separator : String) (h : ∀ x ∈ xs, InTurn (parts x) (written x)) :
    InTurn (xs.flatMap parts) (separator.intercalate (xs.map written)) := by
  induction xs with
  | nil => exact .nil _
  | cons x xs ih =>
    obtain ⟨hx, hxs⟩ := List.forall_mem_cons.mp h
    rw [List.flatMap_cons, List.map_cons]
    cases xs with
    | nil =>
      rw [List.map_nil, String.intercalate_singleton, List.flatMap_nil, List.append_nil]
      exact hx
    | cons y ys =>
      rw [String.intercalate_cons_of_ne_nil (by simp)]
      exact (hx.before separator).append (ih hxs)

end InTurn

theorem split_ne_nil (separator : Char) (cs : List Char) : split separator cs ≠ [] := by
  cases cs with
  | nil => exact List.cons_ne_nil _ _
  | cons c cs =>
    unfold split
    split
    · exact List.cons_ne_nil _ _
    · split <;> exact List.cons_ne_nil _ _

/-- The lines of a text with something else between them than line feeds. -/
theorem intercalate_lines (separator s : String) :
    separator.intercalate (lines s) =
      String.ofList (s.toList.flatMap fun c => if c = '\n' then separator.toList else [c]) := by
  rw [lines]
  induction s.toList with
  | nil => exact String.intercalate_singleton
  | cons c cs ih =>
    rw [List.flatMap_cons, String.ofList_append, ← ih, split]
    split
    · rw [List.map_cons, String.intercalate_cons_of_ne_nil (by simp [split_ne_nil]),
        String.ofList_nil, String.empty_append, String.ofList_toList]
    · cases hs : split '\n' cs with
      | nil => exact absurd hs (split_ne_nil '\n' cs)
      | cons part parts =>
        rw [List.map_cons, List.map_cons, ← String.intercalate_cons_append, ← String.ofList_append]
        rfl

theorem lines_inTurn_intercalate (separator s : String) :
    InTurn (lines s) (separator.intercalate (lines s)) := by
  have h := InTurn.intercalate separator fun line (_ : line ∈ lines s) => InTurn.single line
  rwa [List.flatMap_singleton', List.map_id'] at h

theorem lines_inTurn (s : String) : InTurn (lines s) s := by
  have hone : ∀ c : Char, (if c = '\n' then "\n".toList else [c]) = [c] := by
    intro c
    split
    · rename_i hc
      rw [hc]
      rfl
    · rfl
  have h := lines_inTurn_intercalate "\n" s
  simp only [intercalate_lines, hone, List.flatMap_singleton', String.ofList_toList] at h
  exact h

/-- A text without control characters, but for those that lay it out. -/
def Printable (s : String) : Prop := ∀ c ∈ s.toList, Control.outside.lets c = true

instance (s : String) : Decidable (Printable s) :=
  decidable_of_iff (s.toList.all Control.outside.lets = true) List.all_eq_true

theorem shown_outside (i : Interruption) (cs : List Char) :
    shown i true .outside cs = shown i false .outside cs := by
  cases cs <;> rfl

/-- Nothing of a printable text is dropped, and it drops nothing of what follows. -/
theorem shown_append {i : Interruption} {cs : List Char}
    (h : ∀ c ∈ cs, Control.outside.lets c = true) (rest : List Char) :
    shown i false .outside (cs ++ rest) = cs ++ shown i false .outside rest := by
  induction cs with
  | nil => rfl
  | cons c cs ih =>
    obtain ⟨hc, hcs⟩ := List.forall_mem_cons.mp h
    have hpending : i.pending .outside c = .outside := by
      cases i with
      | abandons => rfl
      | suspends => exact ite_self _
    have hescape : c ≠ '\x1b' := fun he => absurd (he ▸ hc) (by decide)
    have hcancel : ¬ (c = '\x18' || c = '\x1a') = true := by
      rw [Bool.or_eq_true, decide_eq_true_eq, decide_eq_true_eq]
      rintro (he | he) <;> exact absurd (he ▸ hc) (by decide)
    have hstep : shown i false .outside (c :: (cs ++ rest)) =
        c :: shown i true (i.pending .outside c) (cs ++ rest) := by
      rw [shown, if_neg hescape, if_neg hcancel, ite_self, if_pos hc]
    rw [List.cons_append, hstep, hpending, shown_outside, ih hcs, List.cons_append]

theorem plain_append {i : Interruption} {s : String} (h : Printable s) (t : String) :
    plain i (s ++ t) = s ++ plain i t := by
  rw [plain, String.toList_append, shown_append h, String.ofList_append, String.ofList_toList,
    plain]

theorem Printable.append {s t : String} (hs : Printable s) (ht : Printable t) :
    Printable (s ++ t) := by
  intro c hc
  rw [String.toList_append, List.mem_append] at hc
  exact hc.elim (hs c) (ht c)

/-- The texts that are printable. -/
def legible (texts : List String) : List String := texts.filter fun s => decide (Printable s)

theorem legible_cons (s : String) (texts : List String) :
    legible (s :: texts) = legible [s] ++ legible texts :=
  List.filter_append [s] texts

theorem legible_eq_self {texts : List String} (h : ∀ s ∈ texts, Printable s) :
    legible texts = texts :=
  List.filter_eq_self.mpr fun s hs => decide_eq_true (h s hs)

theorem InTurn.legible {texts : List String} {whole : String} (h : InTurn texts whole) :
    InTurn (legible texts) whole :=
  h.filter _

theorem plain_append_inTurn (i : Interruption) (s t : String) :
    InTurn (legible [s]) (plain i (s ++ t)) := by
  by_cases h : Printable s
  · rw [plain_append h]
    exact ((InTurn.single s).before _).legible
  · have hnil : Text.legible [s] = [] := by simp [Text.legible, h]
    rw [hnil]
    exact .nil _

theorem plain_inTurn (i : Interruption) (s : String) : InTurn (legible [s]) (plain i s) := by
  have h := plain_append_inTurn i s ""
  rwa [String.append_empty] at h

end Text

open Text

/-- What a refusal is about: the argument, what was written for it, and why this is no value. -/
def CommandLine.Refusal.about : Refusal → List String
  | .unknown argument => [argument]
  | .repeated argument => [argument.label]
  | .missing field => [field.label]
  | .unneeded flag value => [value, flag.label]
  | .unfit field value cause => [value, field.label, cause.message]

/-- A refusal tells all that it is about, unless it would take control of the terminal. -/
theorem CommandLine.Refusal.told_inTurn (i : Interruption) (r : Refusal) :
    InTurn (legible r.about) (r.told i) := by
  cases r with
  | unknown argument =>
    have hargument := (plain_inTurn i argument).behind "error: unexpected argument '"
    exact (hargument.before "' found").before _
  | repeated argument =>
    have hlabel := (InTurn.single argument.label).behind "error: the argument '"
    exact ((hlabel.before "' cannot be used multiple times").before _).legible
  | missing field =>
    have hlabel := (InTurn.single field.label).behind "error: a value is required for '"
    exact ((hlabel.before "' but none was supplied").before _).legible
  | unneeded flag value =>
    rw [about, legible_cons]
    have hvalue := (plain_inTurn i value).behind "error: unexpected value '"
    have hflag := (hvalue.before "' for '").append (InTurn.single flag.label).legible
    exact (hflag.before "' found; no more were expected").before _
  | unfit field value cause =>
    rw [about, legible_cons value, legible_cons field.label, ← List.append_assoc]
    have hvalue := (plain_inTurn i value).behind "error: invalid value '"
    have hfield := (hvalue.before "' for '").append (InTurn.single field.label).legible
    exact (hfield.before "': ").append (plain_append_inTurn i cause.message hint)

/-- What the line of a record tells, if it is written as it is. -/
def Log.Record.told (r : Record) : List String :=
  if Printable r.line then r.level.name :: r.target :: lines r.text else []

theorem Log.Record.line_inTurn (r : Record) :
    InTurn (r.level.name :: r.target :: lines r.text) r.line := by
  have htext := lines_inTurn_intercalate "\n    " r.text
  rw [intercalate_lines] at htext
  have hlevel := (((InTurn.single r.level.name).before
    (String.ofList (List.replicate (5 - r.level.name.length) ' '))).behind "[").before " "
  exact ((hlevel.append (.single r.target)).before "] ").append htext

theorem Log.Record.shown_inTurn (r : Record) : InTurn r.told r.shown := by
  unfold told
  split
  · rename_i h
    rw [shown, plain_append h]
    exact r.line_inTurn.before _
  · exact .nil _

namespace Failure

theorem hang_inTurn (lead text : String) : InTurn (lines text) (hang lead text) :=
  (lines_inTurn_intercalate _ text).behind lead

theorem causeLines_inTurn (causes : List String) :
    InTurn (causes.flatMap lines) ("\n".intercalate (causeLines causes)) := by
  unfold causeLines
  split
  · exact .nil _
  · rw [String.intercalate_singleton, List.flatMap_singleton]
    exact hang_inTurn _ _
  · have h := InTurn.intercalate "\n" fun (p : String × Nat) (_ : p ∈ causes.zipIdx) =>
      hang_inTurn (String.ofList (List.replicate
        (5 - (String.ofList (Decimal.write p.2)).length) ' ') ++
          String.ofList (Decimal.write p.2) ++ ": ") p.1
    rw [← List.flatMap_map Prod.fst lines, List.zipIdx_map_fst] at h
    exact h

/-- A report holds the lines of the whole chain. -/
theorem reportOf_inTurn (chain : List String) : InTurn (chain.flatMap lines) (reportOf chain) := by
  unfold reportOf
  split
  · exact .nil _
  · rename_i text
    rw [List.flatMap_singleton]
    exact ((lines_inTurn text).behind _).before _
  · rename_i text causes _
    rw [List.flatMap_cons]
    have htext := ((lines_inTurn text).behind "Error: ").before "\n\nCaused by:\n"
    exact (htext.append (causeLines_inTurn causes)).before "\n"

end Failure

namespace Outcome

/-- All that the user is told beside the output. -/
def told (o : Outcome) : List String :=
  o.refusal.toList.flatMap (fun r => legible r.about) ++ o.ignored.map Log.Ignored.message ++
    o.records.flatMap Log.Record.told ++ o.failure.toList.flatMap fun f => f.chain.flatMap lines

theorem messages_inTurn (o : Outcome) : InTurn o.told o.messages := by
  rw [told, messages, String.join_append, String.join_append, String.join_append]
  refine (InTurn.append (InTurn.append ?_ ?_) ?_).append ?_
  · exact InTurn.join fun r _ => CommandLine.Refusal.told_inTurn .suspends r
  · have hi := InTurn.join fun i (_ : i ∈ o.ignored) =>
      (InTurn.single (Log.Ignored.message i)).before "\n"
    rwa [← List.map_eq_flatMap] at hi
  · exact InTurn.join fun r _ => Log.Record.shown_inTurn r
  · exact InTurn.join fun f _ => Failure.reportOf_inTurn f.chain

end Outcome
end MagicBaud
