import MagicBaud.Settings

namespace MagicBaud

namespace Layer
variable {α : Type} {a b l : Layer} {ls us : List Layer}

theorem or_assoc (a b c : Layer) : (a.or b).or c = a.or (b.or c) := by
  simp only [or, Option.or_assoc]

theorem or_self (a : Layer) : a.or a = a := by
  simp only [or, Option.or_self]

theorem empty_or (a : Layer) : empty.or a = a := by
  simp only [or, empty, Option.none_or]

theorem or_empty (a : Layer) : a.or empty = a := by
  simp only [or, empty, Option.or_none]

/-- What stands above already has no effect below. -/
theorem or_or_self (a b : Layer) : (a.or b).or a = a.or b := by
  have absorbed : ∀ {α : Type} (x y : Option α), (x.or y).or x = x.or y := by
    intro α x y
    cases x with
    | none => rw [Option.none_or, Option.or_none]
    | some v => rfl
  simp only [or, absorbed]

instance : Std.Associative or := ⟨or_assoc⟩

/-- No value is set to two different things. -/
structure Agree (a b : Layer) : Prop where
  port : ∀ v v', a.port = some v → b.port = some v' → v = v'
  rate : ∀ v v', a.rate = some v → b.rate = some v' → v = v'
  neutral : ∀ v v', a.neutral = some v → b.neutral = some v' → v = v'
  settle : ∀ v v', a.settle = some v → b.settle = some v' → v = v'

theorem option_or_comm_iff {x y : Option α} :
    x.or y = y.or x ↔ ∀ v v', x = some v → y = some v' → v = v' := by
  cases x with
  | none => simp
  | some v =>
    cases y with
    | none => simp
    | some v' => simp

/-- The order of two layers matters only where both set a value. -/
theorem or_comm_iff : a.or b = b.or a ↔ Agree a b := by
  simp only [or, mk.injEq, option_or_comm_iff]
  constructor
  · rintro ⟨port, rate, neutral, settle⟩
    exact ⟨port, rate, neutral, settle⟩
  · rintro ⟨port, rate, neutral, settle⟩
    exact ⟨port, rate, neutral, settle⟩

theorem stack_cons (l : Layer) (ls : List Layer) : stack (l :: ls) = l.or (stack ls) := by
  calc
    stack (l :: ls) = ls.foldl or (l.or empty) := by
      rw [stack, List.foldl_cons, empty_or, or_empty]
    _ = l.or (stack ls) := List.foldl_assoc

theorem stack_append (us ls : List Layer) : stack (us ++ ls) = (stack us).or (stack ls) := by
  induction us with
  | nil => exact (empty_or _).symm
  | cons u us ih => rw [List.cons_append, stack_cons, stack_cons, ih, or_assoc]

/-- A layer of the stack adds nothing below it. -/
theorem stack_or_of_mem (h : l ∈ us) : (stack us).or l = stack us := by
  induction us with
  | nil => cases h
  | cons u us ih =>
    rw [stack_cons]
    rcases List.mem_cons.mp h with rfl | h
    · exact or_or_self l _
    · rw [or_assoc, ih h]

/-- A value of layers that is unset in the empty one and layered by itself. -/
structure Separate (f : Layer → Option α) : Prop where
  empty : f Layer.empty = none
  or : ∀ a b, f (a.or b) = (f a).or (f b)

theorem separate_port : Separate port := ⟨rfl, fun _ _ => rfl⟩

theorem separate_rate : Separate rate := ⟨rfl, fun _ _ => rfl⟩

theorem separate_neutral : Separate neutral := ⟨rfl, fun _ _ => rfl⟩

theorem separate_settle : Separate settle := ⟨rfl, fun _ _ => rfl⟩

/-- Induction on the layers. -/
theorem Separate.stack {f : Layer → Option α} (h : Separate f) (ls : List Layer) :
    f (stack ls) = ls.findSome? f := by
  induction ls with
  | nil => exact h.empty
  | cons l ls ih =>
    rw [stack_cons, h.or, ih, List.findSome?_cons]
    cases f l <;> rfl

theorem Separate.or_of_some {f : Layer → Option α} (h : Separate f) {v : α} (hv : f a = some v)
    (b : Layer) : f (a.or b) = some v := by
  rw [h.or, hv, Option.some_or]

/-- Of each value the layer has what the first of the others says that says something. -/
structure Leads (ls : List Layer) (l : Layer) : Prop where
  port : l.port = ls.findSome? Layer.port
  rate : l.rate = ls.findSome? Layer.rate
  neutral : l.neutral = ls.findSome? Layer.neutral
  settle : l.settle = ls.findSome? Layer.settle

/-- Whatever the one layer sets, the other sets to the same. -/
structure Keeps (l l' : Layer) : Prop where
  port : ∀ v, l.port = some v → l'.port = some v
  rate : ∀ v, l.rate = some v → l'.rate = some v
  neutral : ∀ v, l.neutral = some v → l'.neutral = some v
  settle : ∀ v, l.settle = some v → l'.settle = some v

theorem leads_stack (ls : List Layer) : Leads ls (stack ls) :=
  ⟨separate_port.stack ls, separate_rate.stack ls, separate_neutral.stack ls,
    separate_settle.stack ls⟩

theorem keeps_or (a b : Layer) : Keeps a (a.or b) where
  port _ h := separate_port.or_of_some h b
  rate _ h := separate_rate.or_of_some h b
  neutral _ h := separate_neutral.or_of_some h b
  settle _ h := separate_settle.or_of_some h b

/-- The switch whose every value is the first that is set, or else built in. -/
def firstSwitch (ls : List Layer) : Switch where
  port := (ls.findSome? port).getD Settings.defaultPort
  target := (ls.findSome? rate).getD Rate.defaultTarget
  neutral := (ls.findSome? neutral).getD Rate.neutral
  settle := ((ls.findSome? settle).map Duration.ofMillis).getD Duration.zero

theorem Leads.toSwitch (h : Leads ls l) : l.resolve.toSwitch = firstSwitch ls := by
  have hz : Duration.zero = Duration.ofMillis Millis.zero := rfl
  rw [firstSwitch, ← h.port, ← h.rate, ← h.neutral, ← h.settle, hz, Option.getD_map]
  rfl

/-- All values are set, to what looks like none. -/
def hollow : Layer where
  port := some ""
  rate := some ⟨0, Nat.le_of_ble_eq_true rfl⟩
  neutral := some ⟨0, Nat.le_of_ble_eq_true rfl⟩
  settle := some Millis.zero

end Layer

/-- Layers put together two by two. -/
inductive Pile where
  | empty
  | layer (l : Layer)
  | onto (upper lower : Pile)

namespace Pile

/-- From the highest priority to the lowest. -/
def layers : Pile → List Layer
  | .empty => []
  | .layer l => [l]
  | .onto upper lower => upper.layers ++ lower.layers

def merged : Pile → Layer
  | .empty => Layer.empty
  | .layer l => l
  | .onto upper lower => upper.merged.or lower.merged

/-- Induction on the pile: only the order of its layers matters. -/
theorem merged_eq (p : Pile) : p.merged = Layer.stack p.layers := by
  induction p with
  | empty => rfl
  | layer l => exact (Layer.empty_or l).symm
  | onto upper lower hu hl => rw [merged, layers, Layer.stack_append, hu, hl]

end Pile

namespace Layer

/-- In whatever pairs layers are put together, each value is the first that is set, and so is each
of the switch, where what is unset is built in. Layering is associative and idempotent, with the
empty layer for a unit. Layers that are empty or stand higher up already change nothing, layers
below change nothing that is set, and two layers can be swapped just if they agree. What looks like
no value is one. -/
theorem layers_stacked :
    (∀ p : Pile, p.merged = stack p.layers) ∧
    (∀ ls, Leads ls (stack ls) ∧ (stack ls).resolve.toSwitch = firstSwitch ls) ∧
    (∀ a b c : Layer, (a.or b).or c = a.or (b.or c)) ∧
    (∀ a : Layer, a.or a = a ∧ empty.or a = a ∧ a.or empty = a) ∧
    (∀ us ls, stack (us ++ empty :: ls) = stack (us ++ ls)) ∧
    (∀ us ls l, l ∈ us → stack (us ++ l :: ls) = stack (us ++ ls)) ∧
    (∀ us ls, Keeps (stack us) (stack (us ++ ls))) ∧
    (∀ a b : Layer, a.or b = b.or a ↔ Agree a b) ∧
    ∀ ls, stack (hollow :: ls) = hollow := by
  refine ⟨Pile.merged_eq, ?_, or_assoc, ?_, ?_, ?_, ?_, fun a b => or_comm_iff, ?_⟩
  · exact fun ls => ⟨leads_stack ls, (leads_stack ls).toSwitch⟩
  · exact fun a => ⟨or_self a, empty_or a, or_empty a⟩
  · intro us ls
    rw [stack_append, stack_cons, empty_or, stack_append]
  · intro us ls l h
    rw [stack_append, stack_cons, ← or_assoc, stack_or_of_mem h, stack_append]
  · intro us ls
    rw [stack_append]
    exact keeps_or _ _
  · intro ls
    rw [stack_cons]
    rfl

/-- A layer that is repeated, one that looks empty, and two that agree. -/
theorem layers_stacked_repeated :
    let a : Layer := { port := some "", rate := some ⟨0, by decide⟩ }
    let b : Layer := { rate := some ⟨1200, by decide⟩, settle := some ⟨5, by decide⟩ }
    let c : Layer := { port := some "", settle := some ⟨5, by decide⟩ }
    let p : Pile := .onto (.onto .empty (.layer a)) (.onto (.onto (.layer b) (.layer a)) (.layer c))
    p.merged = stack [a, b, c] ∧ p.merged.resolve.toSwitch.target = ⟨0, by decide⟩ ∧
      p.merged.port = some "" ∧ b.or c = c.or b ∧ a.or b ≠ b.or a := by
  intro a b c p
  obtain ⟨hpile, hlead, _, _, _, hrepeat, hkeeps, hcomm, _⟩ := layers_stacked
  have hp : p.merged = stack [a, b, c] := (hpile p).trans (hrepeat [a, b] [c] a (by simp))
  refine ⟨hp, ?_, ?_, ?_, ?_⟩
  · rw [hp, (hlead [a, b, c]).2]
    rfl
  · rw [hp]
    exact (hkeeps [a] [b, c]).port "" rfl
  · refine (hcomm b c).mpr ⟨?_, ?_, ?_, ?_⟩
    · exact fun _ _ h => nomatch h
    · exact fun _ _ _ h => nomatch h
    · exact fun _ _ h => nomatch h
    · exact fun _ _ h h' => (Option.some.inj h).symm.trans (Option.some.inj h')
  · intro h
    have hrate := ((hcomm a b).mp h).rate _ _ rfl rfl
    cases hrate

end Layer
end MagicBaud
