import MagicBaud.Proofs.History

namespace MagicBaud.Switch
variable {σ η ε : Type} {o : Opener σ η ε} {w : Switch} {s s' : σ}

/-- What happens at an opening of the port. -/
def tries (w : Switch) (rate : Rate) (answer : Except ε η) : List (Event η ε) :=
  [.noticed (.opening w.port rate), .opened w.port rate answer]

/-- What happens when the handle is given back. -/
def yields (w : Switch) (handle : η) : List (Event η ε) :=
  [.noticed (.closing w.port), .closed handle]

/-- What happens between the two openings. -/
def waits (w : Switch) : List (Event η ε) :=
  if w.settle.isZero then [] else [.noticed (.waiting w.settle), .paused w.settle]

theorem run_toggle_error {rate : Rate} {e : ε} {next : Session η ε}
    (h : o.openPort s w.port rate = (.error e, s')) :
    (w.toggle rate next).run o s = ⟨w.tries rate (.error e), .error e, s'⟩ := by
  simp only [toggle, Session.run, h]
  rfl

theorem run_toggle_ok {rate : Rate} {handle : η} {next : Session η ε}
    (h : o.openPort s w.port rate = (.ok handle, s')) :
    (w.toggle rate next).run o s =
      let r := next.run o (o.closePort s' handle)
      ⟨w.tries rate (.ok handle) ++ w.yields handle ++ r.events, r.result, r.state⟩ := by
  simp only [toggle, Session.run, h]
  rfl

theorem run_settled {next : Session η ε} :
    (w.settled next).run o s =
      let r := next.run o s
      ⟨w.waits ++ r.events, r.result, r.state⟩ := by
  unfold settled waits
  split
  · rfl
  · rfl

/-- The courses that a run can take from a state, with all that happens on each. -/
inductive Course (o : Opener σ η ε) (w : Switch) (s : σ) : Run σ η ε → Prop
  | refused {e : ε} {s' : σ} (first : o.openPort s w.port w.target = (.error e, s')) :
      Course o w s
        ⟨.noticed (.switching w.port w.target w.neutral) :: w.tries w.target (.error e),
          .error e, s'⟩
  | halfway {handle : η} {s' : σ} {e : ε} {s'' : σ}
      (first : o.openPort s w.port w.target = (.ok handle, s'))
      (second : o.openPort (o.closePort s' handle) w.port w.neutral = (.error e, s'')) :
      Course o w s
        ⟨.noticed (.switching w.port w.target w.neutral) ::
            (w.tries w.target (.ok handle) ++ w.yields handle ++
              (w.waits ++ w.tries w.neutral (.error e))),
          .error e, s''⟩
  | through {handle : η} {s' : σ} {handle' : η} {s'' : σ}
      (first : o.openPort s w.port w.target = (.ok handle, s'))
      (second : o.openPort (o.closePort s' handle) w.port w.neutral = (.ok handle', s'')) :
      Course o w s
        ⟨.noticed (.switching w.port w.target w.neutral) ::
            (w.tries w.target (.ok handle) ++ w.yields handle ++
              (w.waits ++ (w.tries w.neutral (.ok handle') ++ w.yields handle'))),
          .ok (), o.closePort s'' handle'⟩

/-- Every run takes one of the courses. -/
theorem run_course (o : Opener σ η ε) (w : Switch) (s : σ) : Course o w s (w.run o s) := by
  have hrun : w.run o s =
      ((w.toggle w.target <| w.settled <| w.toggle w.neutral <| .done (.ok ())).run o s).cons
        (.noticed (.switching w.port w.target w.neutral)) := rfl
  rw [hrun]
  rcases hf : o.openPort s w.port w.target with ⟨e | handle, s'⟩
  · rw [run_toggle_error hf]
    exact .refused hf
  · rw [run_toggle_ok hf, run_settled]
    rcases hs : o.openPort (o.closePort s' handle) w.port w.neutral with ⟨e | handle', s''⟩
    · rw [run_toggle_error hs]
      exact .halfway hf hs
    · rw [run_toggle_ok hs]
      simp only [Session.run, List.append_nil]
      exact .through hf hs

theorem calls_waits (w : Switch) : (w.waits : List (Event η ε)).filter Event.isCall = [] := by
  unfold waits
  split
  · rfl
  · rfl

/-- The calls of a run, by its course. -/
inductive Calls (w : Switch) : List (Event η ε) → Except ε Unit → Prop
  | refused (e : ε) : Calls w [.opened w.port w.target (.error e)] (.error e)
  | halfway (handle : η) (e : ε) :
      Calls w
        [.opened w.port w.target (.ok handle), .closed handle,
          .opened w.port w.neutral (.error e)] (.error e)
  | through (handle handle' : η) :
      Calls w
        [.opened w.port w.target (.ok handle), .closed handle,
          .opened w.port w.neutral (.ok handle'), .closed handle'] (.ok ())

theorem Course.calls {r : Run σ η ε} (h : Course o w s r) : Calls w r.calls r.result := by
  cases h with
  | refused first => exact .refused _
  | halfway first second =>
    simp only [Run.calls, tries, yields, List.filter_cons, List.filter_append, calls_waits]
    exact .halfway _ _
  | through first second =>
    simp only [Run.calls, tries, yields, List.filter_cons, List.filter_append, calls_waits]
    exact .through _ _

end MagicBaud.Switch
