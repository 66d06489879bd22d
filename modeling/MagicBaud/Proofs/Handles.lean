import Mathlib.Data.List.Forall2
import MagicBaud.Proofs.Course

namespace MagicBaud
variable {σ η ε : Type}

/-- The handles that are open before and after some calls. Only an open handle can be closed. -/
inductive Holding : List η → List (Event η ε) → List η → Prop
  | nil (held : List η) : Holding held [] held
  | granted {held after : List η} {es : List (Event η ε)} {path : String} {rate : Rate} {handle : η}
      (rest : Holding (handle :: held) es after) :
      Holding held (.opened path rate (.ok handle) :: es) after
  | refused {held after : List η} {es : List (Event η ε)} {path : String} {rate : Rate} {e : ε}
      (rest : Holding held es after) : Holding held (.opened path rate (.error e) :: es) after
  | closed {held others after : List η} {es : List (Event η ε)} {handle : η}
      (isOpen : held.Perm (handle :: others)) (rest : Holding others es after) :
      Holding held (.closed handle :: es) after

/-- Calls settle which handles they leave open, in whatever order these are kept. -/
theorem Holding.unique {held held' after after' : List η} {es : List (Event η ε)}
    (h : Holding held es after) (h' : Holding held' es after') (hp : held.Perm held') :
    after.Perm after' := by
  induction h generalizing held' with
  | nil => cases h'; exact hp
  | granted _ ih =>
    cases h' with
    | granted rest => exact ih rest (hp.cons _)
  | refused _ ih =>
    cases h' with
    | refused rest => exact ih rest hp
  | closed isOpen _ ih =>
    cases h' with
    | closed isOpen' rest =>
      exact ih rest ((isOpen.symm.trans (hp.trans isOpen')).cons_inv)

/-- Each handle given is closed at once. -/
inductive Paired : List (Event η ε) → Prop
  | nil : Paired []
  | refused {es : List (Event η ε)} {path : String} {rate : Rate} {e : ε} (rest : Paired es) :
      Paired (.opened path rate (.error e) :: es)
  | granted {es : List (Event η ε)} {path : String} {rate : Rate} {handle : η} (rest : Paired es) :
      Paired (.opened path rate (.ok handle) :: .closed handle :: es)

namespace Paired
variable {es fs : List (Event η ε)}

theorem append (h : Paired es) (h' : Paired fs) : Paired (es ++ fs) := by
  induction h with
  | nil => exact h'
  | refused _ ih => exact .refused ih
  | granted _ ih => exact .granted ih

theorem holding (h : Paired es) (held : List η) : Holding held es held := by
  induction h with
  | nil => exact .nil held
  | refused _ ih => exact .refused ih
  | granted _ ih => exact .granted (.closed (.refl _) ih)

/-- Between an opening and its closing one handle is open, and elsewhere none. -/
theorem holding_prefix (h : Paired es) {pre : List (Event η ε)} (hp : pre <+: es) :
    ∃ held, Holding [] pre held ∧ held.length ≤ 1 := by
  induction h generalizing pre with
  | nil =>
    obtain rfl := List.prefix_nil.mp hp
    exact ⟨[], .nil [], Nat.zero_le 1⟩
  | refused _ ih =>
    rcases List.prefix_cons_iff.mp hp with rfl | ⟨tail, rfl, ht⟩
    · exact ⟨[], .nil [], Nat.zero_le 1⟩
    · obtain ⟨held, hh, hl⟩ := ih ht
      exact ⟨held, .refused hh, hl⟩
  | @granted es path rate handle _ ih =>
    rcases List.prefix_cons_iff.mp hp with rfl | ⟨tail, rfl, ht⟩
    · exact ⟨[], .nil [], Nat.zero_le 1⟩
    · rcases List.prefix_cons_iff.mp ht with rfl | ⟨later, rfl, hl⟩
      · exact ⟨[handle], .granted (.nil _), Nat.le_refl 1⟩
      · obtain ⟨held, hh, hl⟩ := ih hl
        exact ⟨held, .granted (.closed (.refl _) hh), hl⟩

theorem closed_next (h : Paired es) {i : Nat} {path : String} {rate : Rate} {handle : η}
    (hi : es[i]? = some (.opened path rate (.ok handle))) : es[i + 1]? = some (.closed handle) := by
  induction h generalizing i with
  | nil => cases hi
  | refused _ ih =>
    cases i with
    | zero => cases hi
    | succ i => exact ih hi
  | granted _ ih =>
    match i with
    | 0 => cases hi; rfl
    | 1 => cases hi
    | i + 2 => exact ih hi

theorem opened_before (h : Paired es) {j : Nat} {handle : η}
    (hj : es[j]? = some (.closed handle)) :
    ∃ i path rate, j = i + 1 ∧ es[i]? = some (.opened path rate (.ok handle)) := by
  induction h generalizing j with
  | nil => cases hj
  | refused _ ih =>
    cases j with
    | zero => cases hj
    | succ j =>
      obtain ⟨i, path, rate, rfl, hi⟩ := ih hj
      exact ⟨i + 1, path, rate, rfl, hi⟩
  | @granted es path rate _ _ ih =>
    match j with
    | 0 => cases hj
    | 1 => cases hj; exact ⟨0, path, rate, rfl, rfl⟩
    | j + 2 =>
      obtain ⟨i, path, rate, rfl, hi⟩ := ih hj
      exact ⟨i + 2, path, rate, rfl, hi⟩

/-- A trace that keeps nothing open ends with what it began with, and with nothing else. -/
theorem holding_iff (h : Paired es) {held : List η} : Holding [] es held ↔ held = [] := by
  constructor
  · intro hh
    exact ((h.holding []).unique hh (.refl [])).symm.eq_nil
  · rintro rfl
    exact h.holding []

end Paired

/-- Handles are given back one by one: what is opened is closed by the next call, nothing else is
closed, and at no time are two handles open. -/
structure Tidy (es : List (Event η ε)) : Prop where
  closed_next : ∀ i path rate handle, es[i]? = some (.opened path rate (.ok handle)) →
    es[i + 1]? = some (.closed handle)
  opened_before : ∀ j handle, es[j]? = some (.closed handle) →
    ∃ i path rate, j = i + 1 ∧ es[i]? = some (.opened path rate (.ok handle))
  one_held : ∀ pre, pre <+: es →
    (∃ held, Holding [] pre held) ∧ ∀ held, Holding [] pre held → held.length ≤ 1

theorem Paired.tidy {es : List (Event η ε)} (h : Paired es) : Tidy es where
  closed_next _ _ _ _ hi := h.closed_next hi
  opened_before _ _ hj := h.opened_before hj
  one_held pre hp := by
    obtain ⟨held, hh, hl⟩ := h.holding_prefix hp
    refine ⟨⟨held, hh⟩, ?_⟩
    intro other ho
    rw [(ho.unique hh (.refl [])).length_eq]
    exact hl

namespace Switch
variable {w : Switch}

theorem Calls.paired {es : List (Event η ε)} {result : Except ε Unit} (h : Calls w es result) :
    Paired es := by
  cases h with
  | refused e => exact .refused .nil
  | halfway handle e => exact .granted (.refused .nil)
  | through handle handle' => exact .granted (.granted .nil)

theorem trace_paired (o : Opener σ η ε) (ws : List Switch) (s : σ) :
    Paired (Run.trace (runAll o ws s)) := by
  induction ws generalizing s with
  | nil => exact .nil
  | cons w ws ih => exact (run_course o w s).calls.paired.append (ih _)

end Switch

/-- The calls open the port of the switch at its two rates in turn. The second opening waits for
the first handle to be closed, and a failed one is the last call. -/
structure Switch.Obeys (w : Switch) (calls : List (Event η ε)) : Prop where
  openings : calls.filterMap Event.opening? <+: [(w.port, w.target), (w.port, w.neutral)]
  reopens : ∀ i path rate answer, calls[i]? = some (.opened path rate answer) →
    i = 0 ∨ ∃ handle, calls.take i = [.opened w.port w.target (.ok handle), .closed handle]
  ends : ∀ i path rate e, calls[i]? = some (.opened path rate (.error e)) → calls.length = i + 1

namespace Switch

theorem Calls.obeys {w : Switch} {calls : List (Event η ε)} {result : Except ε Unit}
    (h : Calls w calls result) : w.Obeys calls := by
  cases h with
  | refused e =>
    refine ⟨⟨[(w.port, w.neutral)], rfl⟩, ?_, ?_⟩
    · rintro (_ | i) path rate answer hi
      · exact .inl rfl
      · cases hi
    · rintro (_ | i) path rate e hi
      · rfl
      · cases hi
  | halfway handle e =>
    refine ⟨⟨[], rfl⟩, ?_, ?_⟩
    · rintro (_ | _ | _ | i) path rate answer hi
      · exact .inl rfl
      · cases hi
      · exact .inr ⟨handle, rfl⟩
      · cases hi
    · rintro (_ | _ | _ | i) path rate e hi
      · cases hi
      · cases hi
      · rfl
      · cases hi
  | through handle handle' =>
    refine ⟨⟨[], rfl⟩, ?_, ?_⟩
    · rintro (_ | _ | _ | _ | i) path rate answer hi
      · exact .inl rfl
      · cases hi
      · exact .inr ⟨handle, rfl⟩
      · cases hi
      · cases hi
    · rintro (_ | _ | _ | _ | i) path rate e hi <;> cases hi

theorem runs_obey (o : Opener σ η ε) (ws : List Switch) (s : σ) :
    List.Forall₂ (fun w r => Obeys w r.calls) ws (runAll o ws s) := by
  induction ws generalizing s with
  | nil => exact .nil
  | cons w ws ih => exact .cons (run_course o w s).calls.obeys (ih _)

/-- With any opener, from any state and for any switches: the calls are a history of the opener,
handles are given back one by one, none is open behind any of the runs, and each run opens what
its switch says. -/
theorem runAll_tidy (o : Opener σ η ε) (ws : List Switch) (s : σ) :
    o.History s (Run.trace (runAll o ws s)) (Run.last s (runAll o ws s)) ∧
    Tidy (Run.trace (runAll o ws s)) ∧
    (∀ k held, Holding [] (Run.trace ((runAll o ws s).take k)) held ↔ held = []) ∧
    List.Forall₂ (fun w r => Obeys w r.calls) ws (runAll o ws s) := by
  refine ⟨runAll_history o ws s, (trace_paired o ws s).tidy, ?_, runs_obey o ws s⟩
  intro k held
  rw [runAll_take]
  exact (trace_paired o (ws.take k) s).holding_iff

end Switch
end MagicBaud
