import MagicBaud.Proofs.Account
import MagicBaud.Proofs.Likeness

namespace MagicBaud

/-- The call without its time limit. -/
def Call.untimed : Call → Call
  | .opened path rate _ => .opened path rate none
  | c => c

namespace Tape

/-- The second tape holds the calls of the first, perhaps with time limits. -/
structure Timed (t t' : Tape) : Prop where
  opens : t.opens = t'.opens
  calls : t.calls = t'.calls.map Call.untimed

theorem callsPerRun_timed {t t' : Tape} {rs rs' : List (Run Tape Nat OpenError)}
    (h : List.Forall₂ (Run.Like Timed Eq) rs rs') (ht : t.Timed t') :
    t.callsPerRun rs = (t'.callsPerRun rs').map (List.map Call.untimed) := by
  induction h generalizing t t' with
  | nil => rfl
  | cons hr _ ih =>
    simp only [callsPerRun, List.map_cons, List.map_drop]
    rw [ih hr.state, hr.state.calls, ht.calls, List.length_map]

end Tape

theorem SameAnswer.refl {η ε : Type} (answer : Except ε η) : SameAnswer Eq answer answer := by
  cases answer with
  | ok handle => exact .granted rfl
  | error e => exact .refused e

/-- Events that agree in their handles are equal. -/
theorem Event.Like.eq {η ε : Type} {e e' : Event η ε} (h : e.Like Eq e') : e = e' := by
  cases h with
  | noticed n => rfl
  | paused length => rfl
  | opened path rate h => cases h with
    | granted h => rw [h]
    | refused e => rfl
  | closed h => rw [h]

theorem Run.Like.events_eq {σ σ' η ε : Type} {R : σ → σ' → Prop} {r : Run σ η ε}
    {r' : Run σ' η ε} (h : r.Like R Eq r') : r.events = r'.events := by
  rw [← List.forall₂_eq_eq_eq]
  exact h.events.imp fun _ _ he => he.eq

namespace Opener.Follows
variable {plan : FaultPlan} {limit : Option Duration} {o o' : Opener Tape Nat OpenError}

/-- Openers that follow one plan answer alike, whatever their time limits. -/
theorem like (ho : o.Follows plan none) (ho' : o'.Follows plan limit) :
    o.Like Tape.Timed Eq o' where
  answers t t' ht path rate := by
    rw [ho.opens, ho'.opens, ht.opens]
    exact .refl _
  opens t t' ht path rate := by
    rw [ho.opens, ho'.opens]
    exact ⟨by rw [ht.opens], by simp [ht.calls, Call.untimed]⟩
  closes t t' ht handle handle' hh := by
    rw [ho.closes, ho'.closes, hh]
    exact ⟨ht.opens, by simp [ht.calls, Call.untimed]⟩

/-- In every history the plan answers each opening by the number of openings before it. -/
theorem answers (ho : o.Follows plan limit) {t t' : Tape} {es : List (Event Nat OpenError)}
    (h : o.History t es t') {i : Nat} {path : String} {rate : Rate} {answer : Except OpenError Nat}
    (hi : es[i]? = some (.opened path rate answer)) :
    answer = plan.answer (t.opens + ((es.take i).filterMap Event.opening?).length) path rate := by
  induction h generalizing i with
  | nil => cases hi
  | noticed n _ ih =>
    cases i with
    | zero => cases hi
    | succ i => exact ih hi
  | paused length _ ih =>
    cases i with
    | zero => cases hi
    | succ i => exact ih hi
  | opened asked _ ih =>
    rw [ho.opens] at asked
    obtain ⟨ha, rfl⟩ := Prod.mk.inj asked
    cases i with
    | zero => cases hi; exact ha.symm
    | succ i =>
      have hr := ih hi
      rw [Nat.add_assoc, Nat.add_comm 1] at hr
      exact hr
  | closed _ ih =>
    rw [ho.closes] at ih
    cases i with
    | zero => cases hi
    | succ i => exact ih hi

end Opener.Follows

namespace Switch

/-- Switches come to the same with openers that answer alike. On one plan the recorder and the
system's opener do so: results, events with their handles and errors, and calls agree, but that the
system's opener gives every opening a tenth of a second. -/
theorem runAll_like :
    (∀ {σ σ' η η' ε : Type} {R : σ → σ' → Prop} {H : η → η' → Prop} {o : Opener σ η ε}
        {o' : Opener σ' η' ε}, o.Like R H o' → ∀ (ws : List Switch) {s : σ} {s' : σ'}, R s s' →
      let rs := runAll o ws s
      let rs' := runAll o' ws s'
      rs.map (·.result) = rs'.map (·.result) ∧ rs.map Run.records = rs'.map Run.records ∧
        R (Run.last s rs) (Run.last s' rs') ∧ List.Forall₂ (Run.Like R H) rs rs') ∧
    ∀ (plan : FaultPlan) (ws : List Switch),
      let rs := runAll (Opener.recorder plan) ws {}
      let rs' := runAll (Opener.system plan) ws {}
      rs.map (·.result) = rs'.map (·.result) ∧ rs.map Run.records = rs'.map Run.records ∧
        rs.map (·.events) = rs'.map (·.events) ∧
        Tape.callsPerRun {} rs = (Tape.callsPerRun {} rs').map (List.map Call.untimed) ∧
        (∀ calls ∈ Tape.callsPerRun {} rs', ∀ path rate timeout,
          .opened path rate timeout ∈ calls → timeout = some (.ofMillis ⟨100, by decide⟩)) ∧
        ∀ i path rate answer, (Run.trace rs')[i]? = some (.opened path rate answer) →
          answer = plan.answer (((Run.trace rs').take i).filterMap Event.opening?).length
            path rate := by
  refine ⟨?_, ?_⟩
  · intro σ σ' η η' ε R H o o' ho ws s s' hs rs rs'
    have hr : List.Forall₂ (Run.Like R H) rs rs' := runs_like ho ws hs
    exact ⟨Run.map_eq_of_like hr fun _ _ h => h.result,
      Run.map_eq_of_like hr fun _ _ h => h.records, last_like hr hs, hr⟩
  · intro plan ws rs rs'
    have hp := Opener.system_follows plan
    have hs : Tape.Timed {} {} := ⟨rfl, rfl⟩
    have hr : List.Forall₂ (Run.Like Tape.Timed Eq) rs rs' :=
      runs_like ((Opener.recorder_follows plan).like hp) ws hs
    refine ⟨Run.map_eq_of_like hr fun _ _ h => h.result,
      Run.map_eq_of_like hr fun _ _ h => h.records,
      Run.map_eq_of_like hr fun _ _ h => h.events_eq, Tape.callsPerRun_timed hr hs, ?_, ?_⟩
    · intro calls hc path rate timeout hm
      rw [← Tape.accounts_calls, accounts_runAll hp] at hc
      obtain ⟨a, ha, rfl⟩ := List.mem_map.mp hc
      exact accounts_limit ha hm
    · intro i path rate answer hi
      have ha := hp.answers (runAll_history _ ws {}) hi
      rw [Nat.zero_add] at ha
      exact ha

/-- The two openers on a plan that takes the device away between two switches. -/
theorem runAll_like_interrupted :
    let plan : FaultPlan := fun i => if i = 2 then some ⟨.noDevice, "gone"⟩ else none
    let ws : List Switch :=
      [{ port := "COM3", target := Rate.defaultTarget, settle := .ofMillis ⟨5, by decide⟩ },
        { port := "COM4", target := Rate.defaultTarget }]
    (Opener.recorder plan).Like Tape.Timed Eq (Opener.system plan) ∧ Tape.Timed {} {} ∧
      (runAll (Opener.system plan) ws {}).map (·.result) =
        [.ok (), .error ⟨"COM4", Rate.defaultTarget, ⟨.noDevice, "gone"⟩⟩] := by
  intro plan ws
  have ho : (Opener.recorder plan).Like Tape.Timed Eq (Opener.system plan) :=
    (Opener.recorder_follows plan).like (Opener.system_follows plan)
  have hs : Tape.Timed {} {} := ⟨rfl, rfl⟩
  exact ⟨ho, hs, (runAll_like.1 ho ws hs).1.symm⟩

end Switch
end MagicBaud
