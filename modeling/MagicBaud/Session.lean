import MagicBaud.Notice

namespace MagicBaud

/-- Gives access to ports. It may answer an attempt as its state suggests. -/
structure Opener (σ η ε : Type) where
  openPort : σ → String → Rate → Except ε η × σ
  closePort : σ → η → σ

/-- The remaining course of a session; opening a port hands the answer on. -/
inductive Session (η ε : Type) where
  | done (result : Except ε Unit)
  | notice (n : Notice) (next : Session η ε)
  | pause (length : Duration) (next : Session η ε)
  | openPort (path : String) (rate : Rate) (next : Except ε η → Session η ε)
  | closePort (handle : η) (next : Session η ε)

inductive Event (η ε : Type) where
  | noticed (n : Notice)
  | paused (length : Duration)
  | opened (path : String) (rate : Rate) (answer : Except ε η)
  | closed (handle : η)

structure Run (σ η ε : Type) where
  events : List (Event η ε)
  result : Except ε Unit
  state : σ

def Run.cons {σ η ε : Type} (e : Event η ε) (r : Run σ η ε) : Run σ η ε :=
  { r with events := e :: r.events }

def Session.run {σ η ε : Type} (o : Opener σ η ε) : Session η ε → σ → Run σ η ε
  | .done result, s => ⟨[], result, s⟩
  | .notice n next, s => (next.run o s).cons (.noticed n)
  | .pause length next, s => (next.run o s).cons (.paused length)
  | .openPort path rate next, s =>
    let (answer, s') := o.openPort s path rate
    ((next answer).run o s').cons (.opened path rate answer)
  | .closePort handle next, s => (next.run o (o.closePort s handle)).cons (.closed handle)

def Event.notice? {η ε : Type} : Event η ε → Option Notice
  | .noticed n => some n
  | _ => none

def Run.notices {σ η ε : Type} (r : Run σ η ε) : List Notice := r.events.filterMap Event.notice?

end MagicBaud
