import MagicBaud.Switch

namespace MagicBaud
variable {σ η ε : Type}

namespace Opener

/-- From one state to the other the opener was called as the events say, and answered so. Nothing
but calls moves it. -/
inductive History (o : Opener σ η ε) : σ → List (Event η ε) → σ → Prop
  | nil (s : σ) : History o s [] s
  | noticed {s t : σ} {es : List (Event η ε)} (n : Notice) (rest : History o s es t) :
      History o s (.noticed n :: es) t
  | paused {s t : σ} {es : List (Event η ε)} (length : Duration) (rest : History o s es t) :
      History o s (.paused length :: es) t
  | opened {s s' t : σ} {es : List (Event η ε)} {path : String} {rate : Rate} {answer : Except ε η}
      (asked : o.openPort s path rate = (answer, s')) (rest : History o s' es t) :
      History o s (.opened path rate answer :: es) t
  | closed {s t : σ} {es : List (Event η ε)} {handle : η}
      (rest : History o (o.closePort s handle) es t) : History o s (.closed handle :: es) t

namespace History
variable {o : Opener σ η ε} {s t u : σ} {es fs : List (Event η ε)}

theorem append (h : o.History s es t) (h' : o.History t fs u) : o.History s (es ++ fs) u := by
  induction h with
  | nil => exact h'
  | noticed n _ ih => exact .noticed n (ih h')
  | paused length _ ih => exact .paused length (ih h')
  | opened asked _ ih => exact .opened asked (ih h')
  | closed _ ih => exact .closed (ih h')

end History
end Opener

namespace Event

/-- Whether the event is a call of the opener. -/
def isCall : Event η ε → Bool
  | .opened .. => true
  | .closed _ => true
  | .noticed _ => false
  | .paused _ => false

/-- The port and the rate of an opening. -/
def opening? : Event η ε → Option (String × Rate)
  | .opened path rate _ => some (path, rate)
  | _ => none

end Event

/-- The events without those that are no calls are a history as well. -/
theorem Opener.History.calls {o : Opener σ η ε} {s t : σ} {es : List (Event η ε)}
    (h : o.History s es t) : o.History s (es.filter Event.isCall) t := by
  induction h with
  | nil s => exact .nil s
  | noticed _ _ ih => exact ih
  | paused _ _ ih => exact ih
  | opened asked _ ih => exact .opened asked ih
  | closed _ ih => exact .closed ih

namespace Run

/-- The calls of a run, in order. -/
def calls (r : Run σ η ε) : List (Event η ε) := r.events.filter Event.isCall

def records (r : Run σ η ε) : List Log.Record := r.notices.map Notice.record

/-- The state in which runs that follow one another leave the opener. -/
def last : σ → List (Run σ η ε) → σ
  | s, [] => s
  | _, r :: rs => last r.state rs

/-- All calls of runs that follow one another. -/
def trace (rs : List (Run σ η ε)) : List (Event η ε) := rs.flatMap calls

end Run

/-- Induction on the session: each of its steps adds the event that stands for it. -/
theorem Session.run_history (o : Opener σ η ε) (c : Session η ε) (s : σ) :
    o.History s (c.run o s).events (c.run o s).state := by
  induction c generalizing s with
  | done result => exact .nil s
  | notice n next ih => exact .noticed n (ih s)
  | pause length next ih => exact .paused length (ih s)
  | openPort path rate next ih => exact .opened rfl (ih _ _)
  | closePort handle next ih => exact .closed (ih _)

namespace Switch

theorem runAll_take (o : Opener σ η ε) (ws : List Switch) (s : σ) (k : Nat) :
    (runAll o ws s).take k = runAll o (ws.take k) s := by
  induction ws generalizing s k with
  | nil => simp [runAll]
  | cons w ws ih =>
    cases k with
    | zero => rfl
    | succ k => exact congrArg (w.run o s :: ·) (ih _ k)

/-- The trace of all runs is a history from the first state to the last. -/
theorem runAll_history (o : Opener σ η ε) (ws : List Switch) (s : σ) :
    o.History s (Run.trace (runAll o ws s)) (Run.last s (runAll o ws s)) := by
  induction ws generalizing s with
  | nil => exact .nil s
  | cons w ws ih => exact (Session.run_history o w.session s).calls.append (ih _)

end Switch
end MagicBaud
