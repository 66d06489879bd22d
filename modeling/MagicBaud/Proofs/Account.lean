import MagicBaud.Hardware
import MagicBaud.Proofs.Course

namespace MagicBaud

/-- The answer to the opening with this number. -/
def FaultPlan.answer (plan : FaultPlan) (i : Nat) (path : String) (rate : Rate) :
    Except OpenError Nat :=
  match plan i with
  | some fault => .error ⟨path, rate, fault⟩
  | none => .ok i

/-- The plan for what follows this many openings. -/
def FaultPlan.after (plan : FaultPlan) (n : Nat) : FaultPlan := fun i => plan (n + i)

theorem FaultPlan.answer_eq_error {plan : FaultPlan} {i : Nat} {path : String} {rate : Rate}
    {e : OpenError} :
    plan.answer i path rate = .error e ↔ ∃ fault, plan i = some fault ∧ e = ⟨path, rate, fault⟩ := by
  unfold answer
  cases plan i with
  | none => simp
  | some fault => simp [eq_comm]

theorem FaultPlan.answer_eq_ok {plan : FaultPlan} {i handle : Nat} {path : String} {rate : Rate} :
    plan.answer i path rate = .ok handle ↔ plan i = none ∧ handle = i := by
  unfold answer
  cases plan i with
  | none => simp [eq_comm]
  | some fault => simp

namespace Opener

/-- The opener writes every call on the tape and answers as planned. -/
structure Follows (o : Opener Tape Nat OpenError) (plan : FaultPlan) (limit : Option Duration) :
    Prop where
  opens : ∀ t path rate, o.openPort t path rate =
    (plan.answer t.opens path rate, ⟨t.opens + 1, t.calls ++ [.opened path rate limit]⟩)
  closes : ∀ t handle, o.closePort t handle = ⟨t.opens, t.calls ++ [.closed handle]⟩

theorem recorder_follows (plan : FaultPlan) : (recorder plan).Follows plan none where
  opens t path rate := by
    simp only [recorder, Tape.attempt, FaultPlan.answer]
    cases plan t.opens with
    | none => rfl
    | some fault => rfl
  closes _ _ := rfl

theorem system_follows (plan : FaultPlan) : (system plan).Follows plan (some systemTimeout) where
  opens t path rate := by
    simp only [system, Tape.attempt, FaultPlan.answer]
    cases plan t.opens with
    | none => rfl
    | some fault => rfl
  closes _ _ := rfl

end Opener

def Call.isOpened : Call → Bool
  | .opened .. => true
  | _ => false

/-- Moves the number of a handle. -/
def Call.shift (n : Nat) : Call → Call
  | .closed handle => .closed (n + handle)
  | c => c

/-- What a run makes reach the hardware, and how it ends. -/
structure Account where
  calls : List Call
  result : Except OpenError Unit

namespace Account

def openings (a : Account) : Nat := a.calls.countP Call.isOpened

/-- The openings of several runs. -/
def total (as : List Account) : Nat := (as.flatMap (·.calls)).countP Call.isOpened

theorem total_cons (a : Account) (as : List Account) : total (a :: as) = a.openings + total as := by
  rw [total, List.flatMap_cons, List.countP_append]
  rfl

theorem total_take_succ {as : List Account} {k : Nat} {a : Account} (h : as[k]? = some a) :
    total (as.take (k + 1)) = total (as.take k) + a.openings := by
  rw [total, List.take_add_one, h, List.flatMap_append, List.countP_append, Option.toList_some,
    List.flatMap_singleton]
  rfl

/-- The same with other numbers for the handles. -/
def shift (n : Nat) (a : Account) : Account := { a with calls := a.calls.map (Call.shift n) }

end Account

namespace Tape

/-- The calls and the result of each run, where the first run began with the tape. -/
def accounts (t : Tape) (rs : List (Run Tape Nat OpenError)) : List Account :=
  (t.callsPerRun rs).zipWith Account.mk (rs.map (·.result))

theorem accounts_cons (t : Tape) (r : Run Tape Nat OpenError) (rs : List (Run Tape Nat OpenError)) :
    t.accounts (r :: rs) =
      ⟨r.state.calls.drop t.calls.length, r.result⟩ :: r.state.accounts rs :=
  rfl

theorem accounts_calls (t : Tape) (rs : List (Run Tape Nat OpenError)) :
    (t.accounts rs).map (·.calls) = t.callsPerRun rs := by
  induction rs generalizing t with
  | nil => rfl
  | cons r rs ih => exact congrArg (r.state.calls.drop t.calls.length :: ·) (ih _)

end Tape

namespace Switch
variable {plan : FaultPlan} {limit : Option Duration} {o : Opener Tape Nat OpenError}

/-- The account of a run whose first opening has the number `first`. -/
def account (plan : FaultPlan) (limit : Option Duration) (w : Switch) (first : Nat) : Account :=
  match plan first, plan (first + 1) with
  | some fault, _ => ⟨[.opened w.port w.target limit], .error ⟨w.port, w.target, fault⟩⟩
  | none, some fault =>
    ⟨[.opened w.port w.target limit, .closed first, .opened w.port w.neutral limit],
      .error ⟨w.port, w.neutral, fault⟩⟩
  | none, none =>
    ⟨[.opened w.port w.target limit, .closed first, .opened w.port w.neutral limit,
      .closed (first + 1)], .ok ()⟩

/-- The accounts of runs that follow one another. -/
def accounts (plan : FaultPlan) (limit : Option Duration) : List Switch → Nat → List Account
  | [], _ => []
  | w :: ws, first =>
    w.account plan limit first ::
      accounts plan limit ws (first + (w.account plan limit first).openings)

theorem account_openings (w : Switch) (first : Nat) :
    (w.account plan limit first).openings = if (plan first).isSome then 1 else 2 := by
  unfold account
  cases plan first with
  | some fault => rfl
  | none => cases plan (first + 1) <;> rfl

/-- A run of an opener that follows the plan ends as its account says and puts its calls on the
tape behind those that are there. -/
theorem run_account (ho : o.Follows plan limit) (w : Switch) (t : Tape) :
    let a := w.account plan limit t.opens
    (w.run o t).result = a.result ∧
      (w.run o t).state = ⟨t.opens + a.openings, t.calls ++ a.calls⟩ := by
  have hr := run_course o w t
  generalize w.run o t = r at hr
  cases hr with
  | refused first =>
    obtain ⟨ha, rfl⟩ := Prod.mk.inj ((ho.opens _ _ _).symm.trans first)
    obtain ⟨fault, hp, rfl⟩ := FaultPlan.answer_eq_error.mp ha
    simp only [account, hp, true_and]
    rfl
  | halfway first second =>
    obtain ⟨ha, rfl⟩ := Prod.mk.inj ((ho.opens _ _ _).symm.trans first)
    obtain ⟨hp, rfl⟩ := FaultPlan.answer_eq_ok.mp ha
    rw [ho.closes] at second
    obtain ⟨hb, rfl⟩ := Prod.mk.inj ((ho.opens _ _ _).symm.trans second)
    obtain ⟨fault, hq, rfl⟩ := FaultPlan.answer_eq_error.mp hb
    simp only [account, hp, hq, List.append_assoc, true_and]
    rfl
  | through first second =>
    obtain ⟨ha, rfl⟩ := Prod.mk.inj ((ho.opens _ _ _).symm.trans first)
    obtain ⟨hp, rfl⟩ := FaultPlan.answer_eq_ok.mp ha
    rw [ho.closes] at second
    obtain ⟨hb, rfl⟩ := Prod.mk.inj ((ho.opens _ _ _).symm.trans second)
    obtain ⟨hq, rfl⟩ := FaultPlan.answer_eq_ok.mp hb
    simp only [account, hp, hq, ho.closes, List.append_assoc, true_and]
    rfl

theorem accounts_runAll (ho : o.Follows plan limit) (ws : List Switch) (t : Tape) :
    t.accounts (runAll o ws t) = accounts plan limit ws t.opens := by
  induction ws generalizing t with
  | nil => rfl
  | cons w ws ih =>
    obtain ⟨hr, hs⟩ := run_account ho w t
    have hc : (w.run o t).state.calls.drop t.calls.length = (w.account plan limit t.opens).calls := by
      rw [hs]
      exact List.drop_left
    rw [runAll, Tape.accounts_cons, ih, hr, hc, hs]
    rfl

/-- All calls of the runs are on the tape in the end, and its counter has counted every opening. -/
theorem last_runAll (ho : o.Follows plan limit) (ws : List Switch) (t : Tape) :
    Run.last t (runAll o ws t) =
      ⟨t.opens + Account.total (accounts plan limit ws t.opens),
        t.calls ++ (accounts plan limit ws t.opens).flatMap (·.calls)⟩ := by
  induction ws generalizing t with
  | nil => simp [runAll, Run.last, accounts, Account.total]
  | cons w ws ih =>
    rw [runAll, Run.last, ih, (run_account ho w t).2]
    simp only [accounts, Account.total_cons, List.flatMap_cons, Nat.add_assoc, List.append_assoc]

theorem accounts_length (ws : List Switch) (first : Nat) :
    (accounts plan limit ws first).length = ws.length := by
  induction ws generalizing first with
  | nil => rfl
  | cons w ws ih => exact congrArg (· + 1) (ih _)

theorem accounts_append (ws vs : List Switch) (first : Nat) :
    accounts plan limit (ws ++ vs) first =
      accounts plan limit ws first ++
        accounts plan limit vs (first + Account.total (accounts plan limit ws first)) := by
  induction ws generalizing first with
  | nil => rfl
  | cons w ws ih =>
    simp only [List.cons_append, accounts, ih, Account.total_cons, Nat.add_assoc]

/-- The openings before a run number its first one. -/
theorem accounts_get {ws : List Switch} {k : Nat} {w : Switch} (h : ws[k]? = some w) (first : Nat) :
    (accounts plan limit ws first)[k]? =
      some (w.account plan limit
        (first + Account.total ((accounts plan limit ws first).take k))) := by
  induction ws generalizing k first with
  | nil => cases h
  | cons v ws ih =>
    cases k with
    | zero => cases h; rfl
    | succ k =>
      rw [accounts, List.getElem?_cons_succ, ih h, List.take_succ_cons, Account.total_cons,
        Nat.add_assoc]

theorem account_limit {w : Switch} {first : Nat} {path : String} {rate : Rate}
    {timeout : Option Duration}
    (h : .opened path rate timeout ∈ (w.account plan limit first).calls) : timeout = limit := by
  revert h
  unfold account
  cases plan first with
  | some fault => simp
  | none =>
    cases plan (first + 1)
    all_goals
      simp only [List.mem_cons, Call.opened.injEq, reduceCtorEq, List.not_mem_nil, or_false, false_or]
      rintro (⟨_, _, ht⟩ | ⟨_, _, ht⟩) <;> exact ht

/-- Every opening has the time limit of the opener. -/
theorem accounts_limit {ws : List Switch} {first : Nat} {path : String} {rate : Rate}
    {timeout : Option Duration} {a : Account} (ha : a ∈ accounts plan limit ws first)
    (h : .opened path rate timeout ∈ a.calls) : timeout = limit := by
  induction ws generalizing first with
  | nil => cases ha
  | cons w ws ih =>
    rcases List.mem_cons.mp ha with rfl | ha
    · exact account_limit h
    · exact ih ha

/-- Later runs of a plan are the first runs of what is left of it. -/
theorem account_shift (w : Switch) (n first : Nat) :
    w.account plan limit (n + first) = (w.account (plan.after n) limit first).shift n := by
  unfold account FaultPlan.after
  rw [Nat.add_assoc]
  cases plan (n + first) with
  | some fault => rfl
  | none => cases plan (n + (first + 1)) <;> rfl

theorem openings_shift (n : Nat) (a : Account) : (a.shift n).openings = a.openings := by
  simp only [Account.openings, Account.shift, List.countP_map]
  congr 1
  funext c
  cases c <;> rfl

theorem accounts_shift (ws : List Switch) (n first : Nat) :
    accounts plan limit ws (n + first) =
      (accounts (plan.after n) limit ws first).map (Account.shift n) := by
  induction ws generalizing first with
  | nil => rfl
  | cons w ws ih =>
    simp only [accounts, List.map_cons, account_shift, openings_shift, Nat.add_assoc, ih]

/-- The account that the recorder gives of runs. -/
def recorded (plan : FaultPlan) (ws : List Switch) : List Account :=
  Tape.accounts {} (runAll (Opener.recorder plan) ws {})

theorem recorded_eq (plan : FaultPlan) (ws : List Switch) :
    recorded plan ws = accounts plan none ws 0 :=
  accounts_runAll (Opener.recorder_follows plan) ws {}

/-- Each run is told once and goes as the plan says for the number of openings before it. Runs behind
others are those runs alone on what is left of the plan, with the handles numbered on. -/
theorem recorded_planned (plan : FaultPlan) :
    (∀ ws, (recorded plan ws).length = ws.length ∧
      Run.last {} (runAll (Opener.recorder plan) ws {}) =
        ⟨Account.total (recorded plan ws), (recorded plan ws).flatMap (·.calls)⟩) ∧
    (∀ ws k w, ws[k]? = some w →
      let c := Account.total ((recorded plan ws).take k)
      (recorded plan ws)[k]? = some (w.account plan none c) ∧
      Account.total ((recorded plan ws).take (k + 1)) = c + if (plan c).isSome then 1 else 2) ∧
    ∀ ws vs,
      let n := Account.total (recorded plan ws)
      recorded plan (ws ++ vs) =
        recorded plan ws ++ (recorded (plan.after n) vs).map (Account.shift n) := by
  refine ⟨?_, ?_, ?_⟩
  · intro ws
    rw [last_runAll (Opener.recorder_follows plan), recorded_eq]
    exact ⟨accounts_length ws 0, by simp⟩
  · intro ws k w hw c
    have ha : (recorded plan ws)[k]? = some (w.account plan none c) := by
      unfold c
      rw [recorded_eq, accounts_get hw 0, Nat.zero_add]
    refine ⟨ha, ?_⟩
    rw [Account.total_take_succ ha, account_openings]
  · intro ws vs n
    rw [recorded_eq, accounts_append, ← recorded_eq, Nat.zero_add, recorded_eq (plan.after n),
      ← accounts_shift, Nat.add_zero]

end Switch
end MagicBaud
