import Mathlib.Data.List.Forall2
import MagicBaud.Proofs.Figures

namespace MagicBaud
variable {σ η ε σ' η' ε' : Type}

/-- The same call, but for its error, and with handles of which these are related. -/
inductive Event.Matches (H : η → η' → Prop) : Event η ε → Event η' ε' → Prop
  | granted (path : String) (rate : Rate) {handle : η} {handle' : η'} (h : H handle handle') :
      Matches H (.opened path rate (.ok handle)) (.opened path rate (.ok handle'))
  | refused (path : String) (rate : Rate) (e : ε) (e' : ε') :
      Matches H (.opened path rate (.error e)) (.opened path rate (.error e'))
  | closed {handle : η} {handle' : η'} (h : H handle handle') :
      Matches H (.closed handle) (.closed handle')

/-- The handles were given at the same place. -/
def Counterparts (es : List (Event η ε)) (es' : List (Event η' ε')) (handle : η) (handle' : η') :
    Prop :=
  ∃ (i : Nat) (path : String) (rate : Rate), es[i]? = some (.opened path rate (.ok handle)) ∧
    es'[i]? = some (.opened path rate (.ok handle'))

/-- The calls are the same but for what the handles are and which errors there were. -/
def SameCalls (es : List (Event η ε)) (es' : List (Event η' ε')) : Prop :=
  List.Forall₂ (Event.Matches (Counterparts es es')) es es'

namespace Switch
variable {o : Opener σ η ε} {o' : Opener σ' η' ε'} {w w' : Switch} {s : σ} {s' : σ'}

/-- How far a run gets: the first opening fails, the second one fails, or none. -/
inductive Stage where
  | refused
  | halfway
  | through

/-- The stage that a switch reaches, by the answers to its openings. -/
def stage (o : Opener σ η ε) (w : Switch) (s : σ) : Stage :=
  match o.openPort s w.port w.target with
  | (.error _, _) => .refused
  | (.ok handle, s') =>
    match (o.openPort (o.closePort s' handle) w.port w.neutral).1 with
    | .error _ => .halfway
    | .ok _ => .through

/-- How many calls lead to a stage. -/
def Stage.calls : Stage → Nat
  | .refused => 1
  | .halfway => 3
  | .through => 4

/-- What is logged once the port is open: it is closed, and perhaps opened again after a wait, and
closed again. -/
def Stage.later (w : Switch) : Stage → List Log.Record
  | .refused => []
  | .halfway => closing w.port :: (w.waitRecords ++ [opening w.port w.neutral])
  | .through => closing w.port :: (w.waitRecords ++ [opening w.port w.neutral, closing w.port])

theorem stage_refused {e : ε} {t : σ} (first : o.openPort s w.port w.target = (.error e, t)) :
    w.stage o s = .refused := by
  simp only [stage, first]

theorem stage_halfway {handle : η} {t u : σ} {e : ε}
    (first : o.openPort s w.port w.target = (.ok handle, t))
    (second : o.openPort (o.closePort t handle) w.port w.neutral = (.error e, u)) :
    w.stage o s = .halfway := by
  simp only [stage, first, second]

theorem stage_through {handle handle' : η} {t u : σ}
    (first : o.openPort s w.port w.target = (.ok handle, t))
    (second : o.openPort (o.closePort t handle) w.port w.neutral = (.ok handle', u)) :
    w.stage o s = .through := by
  simp only [stage, first, second]

theorem stage_eq_refused_iff :
    w.stage o s = .refused ↔ ∀ handle, (o.openPort s w.port w.target).1 ≠ .ok handle := by
  rcases hf : o.openPort s w.port w.target with ⟨e | handle, t⟩
  · simp [stage_refused hf]
  · rcases hs : o.openPort (o.closePort t handle) w.port w.neutral with ⟨e | handle', u⟩
    · simp [stage_halfway hf hs]
    · simp [stage_through hf hs]

/-- The log of a run follows from the switch and the stage. -/
theorem Course.records {r : Run σ η ε} (h : Course o w s r) :
    r.records = w.announcement :: opening w.port w.target :: (w.stage o s).later w := by
  have hr : r.records = recordsOf r.events := rfl
  rw [hr]
  cases h with
  | refused first =>
    rw [stage_refused first]
    rfl
  | halfway first second =>
    rw [stage_halfway first second, ← List.cons_append, recordsOf_append, recordsOf_append,
      recordsOf_waits]
    rfl
  | through first second =>
    rw [stage_through first second, ← List.cons_append, recordsOf_append, recordsOf_append,
      recordsOf_waits]
    rfl

theorem Course.length_calls {r : Run σ η ε} (h : Course o w s r) :
    r.calls.length = (w.stage o s).calls := by
  cases h with
  | refused first =>
    rw [stage_refused first]
    rfl
  | halfway first second =>
    rw [stage_halfway first second, Run.calls, ← List.cons_append, calls_around]
    rfl
  | through first second =>
    rw [stage_through first second, Run.calls, ← List.cons_append, calls_around]
    rfl

/-- Both rates are read from the right, so that no port can pass for a part of them. -/
theorem announcement_inj (h : w.announcement = w'.announcement) :
    w.port = w'.port ∧ w.target = w'.target ∧ w.neutral = w'.neutral := by
  have hback : " baud, then back to ".toList = " baud, then back to".toList ++ [' '] := rfl
  have hto : " to ".toList = " to".toList ++ [' '] := rfl
  obtain ⟨hhead, hneutral⟩ := Rate.append_text_inj hback rfl (detail_inj h)
  obtain ⟨hport, htarget⟩ := Rate.append_text_inj hto rfl hhead
  exact ⟨(String.append_right_inj _).mp hport, htarget, hneutral⟩

/-- The record of a wait cannot be taken for that of an opening. -/
theorem waitRecords_append_inj {path path' : String} {rate rate' : Rate}
    {rs rs' : List Log.Record}
    (h : w.waitRecords ++ opening path rate :: rs =
      w'.waitRecords ++ opening path' rate' :: rs') :
    w.settle = w'.settle ∧ rs = rs' := by
  have apart : ∀ {pause path rate}, waiting pause ≠ opening path rate := ne_of_letter (by simp)
  unfold waitRecords at h
  split at h
  · rename_i hz
    split at h
    · rename_i hz'
      exact ⟨(isZero_iff.mp hz).trans (isZero_iff.mp hz').symm, (List.cons.inj h).2⟩
    · exact absurd (List.cons.inj h).1.symm apart
  · split at h
    · exact absurd (List.cons.inj h).1 apart
    · obtain ⟨hw, hl⟩ := List.cons.inj h
      exact ⟨Duration.text_inj (waiting_inj hw), (List.cons.inj hl).2⟩

theorem later_inj {g g' : Stage} (h : g.later w = g'.later w') :
    g = g' ∧ (g ≠ .refused → w.settle = w'.settle) := by
  cases g with
  | refused =>
    cases g' with
    | refused => exact ⟨rfl, fun hn => absurd rfl hn⟩
    | halfway | through => cases h
  | halfway =>
    cases g' with
    | refused => cases h
    | halfway => exact ⟨rfl, fun _ => (waitRecords_append_inj (List.cons.inj h).2).1⟩
    | through => cases (waitRecords_append_inj (List.cons.inj h).2).2
  | through =>
    cases g' with
    | refused => cases h
    | halfway => cases (waitRecords_append_inj (List.cons.inj h).2).2
    | through => exact ⟨rfl, fun _ => (waitRecords_append_inj (List.cons.inj h).2).1⟩

/-- Equally many calls of switches with the same port and rates are the same calls. -/
theorem Calls.same {es : List (Event η ε)} {es' : List (Event η' ε')} {result : Except ε Unit}
    {result' : Except ε' Unit} (h : Calls w es result) (h' : Calls w' es' result')
    (hp : w.port = w'.port) (ht : w.target = w'.target) (hn : w.neutral = w'.neutral)
    (hl : es.length = es'.length) : SameCalls es es' := by
  cases h with
  | refused e =>
    cases h' with
    | halfway | through => cases hl
    | refused e' =>
      rw [hp, ht]
      exact .cons (.refused _ _ e e') .nil
  | halfway handle e =>
    cases h' with
    | refused | through => cases hl
    | halfway handle' e' =>
      rw [hp, ht, hn]
      exact .cons (.granted _ _ ⟨0, _, _, rfl, rfl⟩) (.cons (.closed ⟨0, _, _, rfl, rfl⟩)
        (.cons (.refused _ _ e e') .nil))
  | through handle second =>
    cases h' with
    | refused | halfway => cases hl
    | through handle' second' =>
      rw [hp, ht, hn]
      exact .cons (.granted _ _ ⟨0, _, _, rfl, rfl⟩) (.cons (.closed ⟨0, _, _, rfl, rfl⟩)
        (.cons (.granted _ _ ⟨2, _, _, rfl, rfl⟩) (.cons (.closed ⟨2, _, _, rfl, rfl⟩) .nil)))

/-- Runs that log the same had switches with the same port and rates and got equally far, by the
same calls but for the handles. If the first opening succeeded, they waited equally long, too. -/
theorem run_deduced (o : Opener σ η ε) (o' : Opener σ' η' ε') (w w' : Switch) (s : σ) (s' : σ')
    (h : (w.run o s).records = (w'.run o' s').records) :
    w.port = w'.port ∧ w.target = w'.target ∧ w.neutral = w'.neutral ∧
    w.stage o s = w'.stage o' s' ∧
    SameCalls (w.run o s).calls (w'.run o' s').calls ∧
    ((∃ handle, (o.openPort s w.port w.target).1 = .ok handle) → w.settle = w'.settle) := by
  have hc := run_course o w s
  have hc' := run_course o' w' s'
  rw [hc.records, hc'.records] at h
  obtain ⟨hfirst, hrest⟩ := List.cons.inj h
  obtain ⟨hport, htarget, hneutral⟩ := announcement_inj hfirst
  obtain ⟨hstage, hsettle⟩ := later_inj (List.cons.inj hrest).2
  have hlength : (w.run o s).calls.length = (w'.run o' s').calls.length := by
    rw [hc.length_calls, hc'.length_calls, hstage]
  refine ⟨hport, htarget, hneutral, hstage,
    hc.calls.same hc'.calls hport htarget hneutral hlength, ?_⟩
  rintro ⟨handle, hh⟩
  exact hsettle fun hr => stage_eq_refused_iff.mp hr handle hh

/-- A port whose name reads like a part of the log, on hardware that fails for different reasons. -/
theorem run_deduced_lookalike :
    let w : Switch :=
      { port := "p to 5 baud, then back to 6 at 1 baud", target := ⟨1, by decide⟩
        settle := ⟨0, 1, by decide, by decide⟩ }
    let o := Opener.recorder fun i => if i = 1 then some ⟨.noDevice, "gone"⟩ else none
    let o' := Opener.system fun i => if i = 8 then some ⟨.unknown, "busy"⟩ else none
    (w.run o {}).records = (w.run o' { opens := 7 }).records ∧ w.stage o {} = .halfway ∧
      w.stage o' { opens := 7 } = .halfway ∧
      SameCalls (w.run o {}).calls (w.run o' { opens := 7 }).calls ∧
      ∀ port settle, let w' := { w with port := port, settle := settle }
        (w.run o {}).records = (w'.run o' { opens := 7 }).records →
          port = w.port ∧ settle = w.settle := by
  intro w o o'
  have h : (w.run o {}).records = (w.run o' { opens := 7 }).records := rfl
  obtain ⟨_, _, _, hstage, hcalls, _⟩ := run_deduced o o' w w {} { opens := 7 } h
  refine ⟨h, rfl, hstage ▸ rfl, hcalls, ?_⟩
  intro port settle w' h'
  obtain ⟨hport, _, _, _, _, hsettle⟩ := run_deduced o o' w w' {} { opens := 7 } h'
  exact ⟨hport.symm, (hsettle ⟨0, rfl⟩).symm⟩

end Switch
end MagicBaud
