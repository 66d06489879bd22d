import Mathlib.Data.List.Forall2
import MagicBaud.Proofs.History

namespace MagicBaud
variable {σ σ' η η' ε : Type} {R : σ → σ' → Prop} {H : η → η' → Prop}

/-- Both attempts yield related handles, or both fail with the same error. -/
inductive SameAnswer (H : η → η' → Prop) : Except ε η → Except ε η' → Prop
  | granted {handle : η} {handle' : η'} (h : H handle handle') :
      SameAnswer H (.ok handle) (.ok handle')
  | refused (e : ε) : SameAnswer H (.error e) (.error e)

/-- In related states the openers answer every attempt in the same way, and each call leaves them
in related states. -/
structure Opener.Like (R : σ → σ' → Prop) (H : η → η' → Prop) (o : Opener σ η ε)
    (o' : Opener σ' η' ε) : Prop where
  answers : ∀ s s', R s s' → ∀ path rate,
    SameAnswer H (o.openPort s path rate).1 (o'.openPort s' path rate).1
  opens : ∀ s s', R s s' → ∀ path rate,
    R (o.openPort s path rate).2 (o'.openPort s' path rate).2
  closes : ∀ s s', R s s' → ∀ handle handle', H handle handle' →
    R (o.closePort s handle) (o'.closePort s' handle')

/-- The sessions do the same, whatever related handles they are given. -/
inductive Session.Like (H : η → η' → Prop) : Session η ε → Session η' ε → Prop
  | done (result : Except ε Unit) : Like H (.done result) (.done result)
  | notice (n : Notice) {next : Session η ε} {next' : Session η' ε} (h : Like H next next') :
      Like H (.notice n next) (.notice n next')
  | pause (length : Duration) {next : Session η ε} {next' : Session η' ε} (h : Like H next next') :
      Like H (.pause length next) (.pause length next')
  | openPort (path : String) (rate : Rate) {next : Except ε η → Session η ε}
      {next' : Except ε η' → Session η' ε}
      (h : ∀ answer answer', SameAnswer H answer answer' → Like H (next answer) (next' answer')) :
      Like H (.openPort path rate next) (.openPort path rate next')
  | closePort {handle : η} {handle' : η'} (given : H handle handle') {next : Session η ε}
      {next' : Session η' ε} (h : Like H next next') :
      Like H (.closePort handle next) (.closePort handle' next')

/-- The events are the same but for the handles. -/
inductive Event.Like (H : η → η' → Prop) : Event η ε → Event η' ε → Prop
  | noticed (n : Notice) : Like H (.noticed n) (.noticed n)
  | paused (length : Duration) : Like H (.paused length) (.paused length)
  | opened (path : String) (rate : Rate) {answer : Except ε η} {answer' : Except ε η'}
      (h : SameAnswer H answer answer') : Like H (.opened path rate answer) (.opened path rate answer')
  | closed {handle : η} {handle' : η'} (h : H handle handle') :
      Like H (.closed handle) (.closed handle')

/-- The runs have the same course and result, and they end in related states. -/
structure Run.Like (R : σ → σ' → Prop) (H : η → η' → Prop) (r : Run σ η ε) (r' : Run σ' η' ε) :
    Prop where
  events : List.Forall₂ (Event.Like H) r.events r'.events
  result : r.result = r'.result
  state : R r.state r'.state

theorem Run.Like.cons {r : Run σ η ε} {r' : Run σ' η' ε} {e : Event η ε} {e' : Event η' ε}
    (h : r.Like R H r') (he : e.Like H e') : (r.cons e).Like R H (r'.cons e') :=
  ⟨.cons he h.events, h.result, h.state⟩

/-- Log records do not mention handles. -/
theorem Run.Like.notices {r : Run σ η ε} {r' : Run σ' η' ε} (h : r.Like R H r') :
    r.notices = r'.notices := by
  have hn : ∀ (es : List (Event η ε)) (es' : List (Event η' ε)), List.Forall₂ (Event.Like H) es es' →
      es.filterMap Event.notice? = es'.filterMap Event.notice? := by
    intro es es' he
    induction he with
    | nil => rfl
    | cons he _ ih =>
      cases he with
      | noticed n => exact congrArg (n :: ·) ih
      | paused | opened | closed => exact ih
  exact hn _ _ h.events

theorem Run.Like.records {r : Run σ η ε} {r' : Run σ' η' ε} (h : r.Like R H r') :
    r.records = r'.records :=
  congrArg (List.map Notice.record) h.notices

/-- Induction on the session: each step asks both openers the same, and their answers agree. -/
theorem Session.Like.run {o : Opener σ η ε} {o' : Opener σ' η' ε} {c : Session η ε}
    {c' : Session η' ε} (hc : c.Like H c') (ho : o.Like R H o') {s : σ} {s' : σ'} (hs : R s s') :
    (c.run o s).Like R H (c'.run o' s') := by
  induction hc generalizing s s' with
  | done result => exact ⟨.nil, rfl, hs⟩
  | notice n _ ih => exact (ih hs).cons (.noticed n)
  | pause length _ ih => exact (ih hs).cons (.paused length)
  | openPort path rate _ ih =>
    have ha := ho.answers s s' hs path rate
    exact (ih _ _ ha (ho.opens s s' hs path rate)).cons (.opened path rate ha)
  | closePort given _ ih => exact (ih (ho.closes s s' hs _ _ given)).cons (.closed given)

theorem Run.map_eq_of_like {α : Type} {f : Run σ η ε → α} {f' : Run σ' η' ε → α}
    {rs : List (Run σ η ε)} {rs' : List (Run σ' η' ε)} (h : List.Forall₂ (Run.Like R H) rs rs')
    (hf : ∀ r r', r.Like R H r' → f r = f' r') : rs.map f = rs'.map f' := by
  induction h with
  | nil => rfl
  | cons hr _ ih => rw [List.map_cons, List.map_cons, hf _ _ hr, ih]

namespace Switch

theorem toggle_like (w : Switch) (rate : Rate) {next : Session η ε} {next' : Session η' ε}
    (h : next.Like H next') : (w.toggle rate next).Like H (w.toggle rate next') := by
  refine .notice _ (.openPort _ _ ?_)
  intro answer answer' ha
  cases ha with
  | granted hh => exact .notice _ (.closePort hh h)
  | refused e => exact .done _

theorem settled_like (w : Switch) {next : Session η ε} {next' : Session η' ε}
    (h : next.Like H next') : (w.settled next).Like H (w.settled next') := by
  unfold settled
  split
  · exact h
  · exact .notice _ (.pause _ h)

theorem session_like (w : Switch) (H : η → η' → Prop) :
    (w.session : Session η ε).Like H (w.session : Session η' ε) :=
  .notice _ (w.toggle_like w.target (w.settled_like (w.toggle_like w.neutral (.done _))))

theorem runs_like {o : Opener σ η ε} {o' : Opener σ' η' ε} (ho : o.Like R H o')
    (ws : List Switch) {s : σ} {s' : σ'} (hs : R s s') :
    List.Forall₂ (Run.Like R H) (runAll o ws s) (runAll o' ws s') := by
  induction ws generalizing s s' with
  | nil => exact .nil
  | cons w ws ih =>
    have hr : (w.run o s).Like R H (w.run o' s') := (w.session_like H).run ho hs
    exact .cons hr (ih hr.state)

theorem last_like {rs : List (Run σ η ε)} {rs' : List (Run σ' η' ε)}
    (h : List.Forall₂ (Run.Like R H) rs rs') {s : σ} {s' : σ'} (hs : R s s') :
    R (Run.last s rs) (Run.last s' rs') := by
  induction h generalizing s s' with
  | nil => exact hs
  | cons hr _ ih => exact ih hr.state

end Switch
end MagicBaud
