import RoundWorkflow.Proofs.TransitionLog

/-!
# How a replica fails

A replica fails at an event that its round does not accept.  It fails at a round whose
work is missing, fails, ends without an outcome, or concludes such an event, and at one
that runs out of a budget whose timeout no edge takes up.  `RoundFault` lists these
causes with their errors, and `runRound_eq_error_iff` says that the list is complete.

A failure freezes the replica and does nothing else to it (`StoppedAt`).  What the work
did before stays done.

A replica serves requests one after the other, and the work of all of them shares one
environment.  A frozen replica has an answer to every request, its `refusal`, for which
it looks at no work, and it stays as it is, and so does the environment.  A request that
fails leaves a frozen replica behind, with one exception: the check for completeness that
comes before a run until told to stop.  The main statement is `freezes_for_good`.
-/

namespace RoundWorkflow

/-- What a request is answered with. -/
inductive Answer where
  /-- The round the replica is in. -/
  | round (r : Round)
  /-- The number of rounds that were run. -/
  | executed (rounds : Nat)
  deriving DecidableEq, Repr

/-- Something that a replica is asked to do. -/
inductive Request (σ : Type) where
  | step (event : Event)
  | stepAll (events : List Event)
  | runRound (reg : Registry σ)
  | runFor (rounds : Nat) (reg : Registry σ)
  /-- Rounds until the replica is told to stop; there is no answer when that takes more than `limit
  + 1` rounds. -/
  | run (limit : Nat) (reg : Registry σ)

/-- The run with its result as an answer. -/
def Run.answer {σ α : Type} (answer : α → Answer) (run : Run σ α) : Run σ Answer :=
  ⟨run.result.map answer, run.engine, run.environment⟩

theorem Run.eq_of_answer_eq_error {σ α : Type} {answer : α → Answer} {run : Run σ α} {fault : Error}
    {g : Engine} {env : Environment σ} (h : run.answer answer = ⟨.error fault, g, env⟩) :
    run = ⟨.error fault, g, env⟩ := by
  obtain ⟨result, g', env'⟩ := run
  cases result with
  | ok a => cases h
  | error fault' =>
    cases h
    rfl

/-- With other work in every round that has any. -/
def Registry.withWork {σ : Type} (work : Round → Behaviour σ) (reg : Registry σ) : Registry σ :=
  ⟨fun r => (reg.behaviour? r).map fun _ => work r⟩

theorem Registry.checkComplete_withWork {σ : Type} (work : Round → Behaviour σ) (reg : Registry σ)
    (t : Table) :
    (reg.withWork work).checkComplete t = reg.checkComplete t := by
  have hcontains : (reg.withWork work).contains = reg.contains := by
    funext r
    exact Option.isSome_map
  rw [checkComplete, checkComplete, hcontains]

/-- Whether a request runs rounds until told to stop, and the check for completeness before that
fails. -/
def Request.FailsCheck {σ : Type} (t : Table) (fault : Error) : Request σ → Prop
  | .run _ reg => reg.checkComplete t = .error fault
  | _ => False

/-- The request with other work in every round that has any. -/
def Request.withWork {σ : Type} (work : Round → Behaviour σ) : Request σ → Request σ
  | .step e => .step e
  | .stepAll es => .stepAll es
  | .runRound reg => .runRound (reg.withWork work)
  | .runFor n reg => .runFor n (reg.withWork work)
  | .run limit reg => .run limit (reg.withWork work)

namespace Engine

variable {σ : Type}

/-! ## Faults -/

/-- What the work of a behaviour comes to in the current round. -/
def attempt (g : Engine) (behaviour : Behaviour σ) (env : Environment σ) : Ending × Bench σ :=
  g.supervisor.supervise g.current (behaviour ⟨g.current, g.period⟩) 0 (.fresh env)

/-- Why a round fails, with the error, and with what the work leaves behind. -/
inductive RoundFault (g : Engine) (reg : Registry σ) (env : Environment σ) :
    Error → Environment σ → Prop where
  /-- There is no work. -/
  | missing : reg.behaviour? g.current = none →
      RoundFault g reg env (.missingBehaviour g.current) env
  /-- The work fails. -/
  | failed {behaviour : Behaviour σ} {cause : Error} {time : Nat} {b : Bench σ} :
    reg.behaviour? g.current = some behaviour →
      g.attempt behaviour env = (.finished (.error cause) time, b) →
      RoundFault g reg env (.behaviourFailed g.current cause) b.environment
  /-- The work ends without an outcome. -/
  | unconcluded {behaviour : Behaviour σ} {time : Nat} {b : Bench σ} :
    reg.behaviour? g.current = some behaviour →
      g.attempt behaviour env = (.finished (.ok ()) time, b) →
      b.outcome = none → RoundFault g reg env (.noOutcome g.current) b.environment
  /-- The round does not accept the outcome. -/
  | violation {behaviour : Behaviour σ} {time : Nat} {b : Bench σ} {e : Event} :
    reg.behaviour? g.current = some behaviour →
      g.attempt behaviour env = (.finished (.ok ()) time, b) →
      b.outcome = some e → e ∉ g.table.accepted g.current →
        RoundFault g reg env (.protocolViolation g.current e) b.environment
  /-- The work runs out of its budget, and the round does not accept its timeout. -/
  | unrouted {behaviour : Behaviour σ} {time : Nat} {b : Bench σ} {e : Event} :
    reg.behaviour? g.current = some behaviour → g.attempt behaviour env = (.timedOut e time, b) →
      e ∉ g.table.accepted g.current →
      RoundFault g reg env (.protocolViolation g.current e) b.environment

/-- A replica that is frozen, and apart from that is as another one was. -/
structure StoppedAt (g' g : Engine) : Prop where
  frozen : g'.frozen = true
  table : g'.table = g.table
  supervisor : g'.supervisor = g.supervisor
  current : g'.current = g.current
  period : g'.period = g.period
  steps : g'.steps = g.steps
  history : g'.history = g.history
  streak : g'.streak = g.streak
  /-- Nothing was published. -/
  channel : g'.channel = g.channel

theorem freeze_stoppedAt (g : Engine) : g.freeze.StoppedAt g :=
  ⟨rfl, rfl, rfl, rfl, rfl, rfl, rfl, rfl, rfl⟩

variable {g g' : Engine} {reg : Registry σ} {env env' : Environment σ} {fault : Error}

/-- An event that the current round does not accept freezes the replica. -/
theorem apply_of_not_mem_accepted {e : Event} (hrunning : g.frozen = false)
    (h : e ∉ g.table.accepted g.current) (timedOut : Bool) :
    g.apply e timedOut = (.error (.protocolViolation g.current e), g.freeze) := by
  have hnext : g.table.next g.current e = .error (.protocolViolation g.current e) := by
    rw [Table.next_eq_error_iff]
    exact ⟨fun r hr => h (Table.mem_accepted_iff.mpr ⟨r, hr⟩), rfl⟩
  exact apply_of_next_error hrunning hnext timedOut

/-- Nothing but such an event does. -/
theorem apply_eq_error_iff {e : Event} {timedOut : Bool} (hrunning : g.frozen = false) :
    g.apply e timedOut = (.error fault, g') ↔
      e ∉ g.table.accepted g.current ∧ fault = .protocolViolation g.current e ∧ g' = g.freeze := by
  constructor
  · intro h
    by_cases haccepted : e ∈ g.table.accepted g.current
    · obtain ⟨r, hr⟩ := Table.mem_accepted_iff.mp haccepted
      rw [apply_of_next_ok hrunning (Table.next_eq_ok_iff.mpr hr)] at h
      cases h
    · rw [apply_of_not_mem_accepted hrunning haccepted] at h
      cases h
      exact ⟨haccepted, rfl, rfl⟩
  · rintro ⟨haccepted, rfl, rfl⟩
    exact apply_of_not_mem_accepted hrunning haccepted timedOut

theorem runRound_of_missing (hrunning : g.frozen = false) (h : reg.behaviour? g.current = none) :
    g.runRound reg env = some ⟨.error (.missingBehaviour g.current), g.freeze, env⟩ := by
  rw [runRound, if_neg (Bool.eq_false_iff.mp hrunning), Registry.get, h]

/-- A round with work goes by what the work comes to. -/
theorem runRound_of_behaviour {behaviour : Behaviour σ} (hrunning : g.frozen = false)
    (h : reg.behaviour? g.current = some behaviour) :
    g.runRound reg env =
      (eventOf g.current (g.attempt behaviour env).2 (g.attempt behaviour env).1).map fun
        | .ok (e, timedOut) =>
          ⟨(g.apply e timedOut).1, (g.apply e timedOut).2, (g.attempt behaviour env).2.environment⟩
        | .error fault => ⟨.error fault, g.freeze, (g.attempt behaviour env).2.environment⟩ := by
  rw [runRound, if_neg (Bool.eq_false_iff.mp hrunning), Registry.get, h]
  rfl

/-- A round of a running replica that applies an event fails exactly if it does not accept the
event. -/
theorem run_apply_eq_error_iff {e : Event} {timedOut : Bool} {b : Bench σ}
    (hrunning : g.frozen = false) :
    (⟨(g.apply e timedOut).1, (g.apply e timedOut).2, b.environment⟩ : Run σ Round) =
        ⟨.error fault, g', env'⟩ ↔
      e ∉ g.table.accepted g.current ∧ fault = .protocolViolation g.current e ∧ g' = g.freeze ∧
        b.environment = env' := by
  rw [Run.mk.injEq, ← and_assoc, ← Prod.mk.injEq]
  change g.apply e timedOut = (.error fault, g') ∧ _ ↔ _
  rw [apply_eq_error_iff hrunning, and_assoc, and_assoc]

/-- A round of a running replica fails for one of the causes, and then it freezes the replica. -/
theorem runRound_eq_error_iff (hrunning : g.frozen = false) :
    g.runRound reg env = some ⟨.error fault, g', env'⟩ ↔ g.RoundFault reg env fault env' ∧
      g' = g.freeze := by
  constructor
  · intro h
    cases hbehaviour : reg.behaviour? g.current with
    | none =>
      rw [runRound_of_missing hrunning hbehaviour] at h
      cases h
      exact ⟨.missing hbehaviour, rfl⟩
    | some behaviour =>
      rw [runRound_of_behaviour hrunning hbehaviour] at h
      cases hattempt : g.attempt behaviour env with
      | mk ending b =>
        rw [hattempt] at h
        cases ending with
        | never => cases h
        | timedOut e time =>
          obtain ⟨haccepted, rfl, rfl, rfl⟩ :=
            (run_apply_eq_error_iff hrunning).mp (Option.some.inj h)
          exact ⟨.unrouted hbehaviour hattempt haccepted, rfl⟩
        | finished result time =>
          cases result with
          | error cause =>
            cases h
            exact ⟨.failed hbehaviour hattempt, rfl⟩
          | ok done =>
            cases houtcome : b.outcome with
            | none =>
              rw [eventOf, Bench.result, houtcome] at h
              cases h
              exact ⟨.unconcluded hbehaviour hattempt houtcome, rfl⟩
            | some e =>
              rw [eventOf, Bench.result, houtcome] at h
              obtain ⟨haccepted, rfl, rfl, rfl⟩ :=
                (run_apply_eq_error_iff hrunning).mp (Option.some.inj h)
              exact ⟨.violation hbehaviour hattempt houtcome haccepted, rfl⟩
  · rintro ⟨hfault, rfl⟩
    cases hfault with
    | missing hbehaviour => exact runRound_of_missing hrunning hbehaviour
    | failed hbehaviour hattempt =>
      rw [runRound_of_behaviour hrunning hbehaviour, hattempt]
      rfl
    | unconcluded hbehaviour hattempt houtcome =>
      rw [runRound_of_behaviour hrunning hbehaviour, hattempt, eventOf, Bench.result, houtcome]
      rfl
    | violation hbehaviour hattempt houtcome haccepted =>
      rw [runRound_of_behaviour hrunning hbehaviour, hattempt, eventOf, Bench.result, houtcome]
      exact congrArg some ((run_apply_eq_error_iff hrunning).mpr ⟨haccepted, rfl, rfl, rfl⟩)
    | unrouted hbehaviour hattempt haccepted =>
      rw [runRound_of_behaviour hrunning hbehaviour, hattempt]
      exact congrArg some ((run_apply_eq_error_iff hrunning).mpr ⟨haccepted, rfl, rfl, rfl⟩)

/-- The errors of rounds are fatal. -/
theorem RoundFault.isFatal (h : g.RoundFault reg env fault env') : fault.isFatal = true := by
  cases h <;> rfl

/-! ## Failures -/

/-- A failed turn is fatal, and leaves a frozen replica behind. -/
theorem apply_fails {e : Event} {timedOut : Bool} (h : g.apply e timedOut = (.error fault, g')) :
    fault.isFatal = true ∧ g'.frozen = true := by
  cases hfrozen : g.frozen with
  | true =>
    rw [apply, if_pos hfrozen] at h
    cases h
    exact ⟨rfl, hfrozen⟩
  | false =>
    obtain ⟨-, rfl, rfl⟩ := (apply_eq_error_iff hfrozen).mp h
    exact ⟨rfl, rfl⟩

theorem runRound_of_frozen (h : g.frozen = true) (reg : Registry σ) (env : Environment σ) :
    g.runRound reg env = some ⟨.error (.frozen g.current), g, env⟩ := by
  rw [runRound, if_pos h]

theorem runRound_fails (h : g.runRound reg env = some ⟨.error fault, g', env'⟩) :
    fault.isFatal = true ∧ g'.frozen = true := by
  cases hfrozen : g.frozen with
  | true =>
    rw [runRound_of_frozen hfrozen] at h
    cases h
    exact ⟨rfl, hfrozen⟩
  | false =>
    obtain ⟨hfault, rfl⟩ := (runRound_eq_error_iff hfrozen).mp h
    exact ⟨hfault.isFatal, rfl⟩

theorem stepAll_fails (es : List Event) (h : g.stepAll es = (.error fault, g')) :
    fault.isFatal = true ∧ g'.frozen = true := by
  induction es generalizing g with
  | nil => cases h
  | cons e es ih =>
    rw [stepAll] at h
    cases hstep : g.step e with
    | mk result g₁ =>
      rw [hstep] at h
      cases result with
      | ok r => exact ih h
      | error fault' =>
        cases h
        exact apply_fails hstep

/-- Rounds begin with one that succeeds, or end with one that fails. -/
theorem runFor_succ_eq_some_iff {n : Nat} {run : Run σ Round} :
    g.runFor reg env (n + 1) = some run ↔
      (∃ r g₁ env₁,
        g.runRound reg env = some ⟨.ok r, g₁, env₁⟩ ∧ g₁.runFor reg env₁ n = some run) ∨
        ∃ fault, g.runRound reg env = some run ∧ run.result = .error fault := by
  rw [runFor]
  cases hround : g.runRound reg env with
  | none => simp
  | some round =>
    obtain ⟨result, g₁, env₁⟩ := round
    cases result with
    | ok r =>
      constructor
      · intro h
        exact .inl ⟨r, g₁, env₁, rfl, h⟩
      · rintro (⟨_, _, _, h, hrest⟩ | ⟨_, h, hfault⟩)
        · cases h
          exact hrest
        · cases h
          cases hfault
    | error fault =>
      constructor
      · intro h
        cases h
        exact .inr ⟨fault, rfl, rfl⟩
      · rintro (⟨_, _, _, h, _⟩ | ⟨_, h, _⟩)
        · cases h
        · exact h

/-- Running until told to stop is running for some number of rounds. -/
theorem runUntilStopped_eq_runFor (limit : Nat) {executed : Nat} {run : Run σ Nat}
    (h : g.runUntilStopped reg env executed limit = some run) :
    ∃ n result, g.runFor reg env n = some ⟨result, run.engine, run.environment⟩ ∧
      run.result = result.map fun _ => executed + n := by
  induction limit generalizing g env executed with
  | zero =>
    rw [runUntilStopped] at h
    split at h
    · cases h
      exact ⟨0, _, rfl, rfl⟩
    · cases h
  | succ limit ih =>
    rw [runUntilStopped] at h
    split at h
    · cases h
      exact ⟨0, _, rfl, rfl⟩
    · cases hround : g.runRound reg env with
      | none => rw [hround] at h; cases h
      | some round =>
        obtain ⟨result, g₁, env₁⟩ := round
        rw [hround] at h
        cases result with
        | ok r =>
          obtain ⟨n, result, hrest, hresult⟩ := ih h
          refine ⟨n + 1, result, runFor_succ_eq_some_iff.mpr (.inl ⟨r, g₁, env₁, hround, hrest⟩),
            ?_⟩
          rw [hresult, Nat.add_assoc, Nat.add_comm 1 n]
        | error fault =>
          cases h
          exact ⟨1, .error fault, runFor_succ_eq_some_iff.mpr (.inr ⟨fault, hround, rfl⟩), rfl⟩

theorem runFor_fails (n : Nat) (h : g.runFor reg env n = some ⟨.error fault, g', env'⟩) :
    fault.isFatal = true ∧ g'.frozen = true := by
  induction n generalizing g env with
  | zero => cases h
  | succ n ih =>
    rcases runFor_succ_eq_some_iff.mp h with ⟨r, g₁, env₁, -, hrest⟩ | ⟨_, hround, -⟩
    · exact ih hrest
    · exact runRound_fails hround

/-- A run until told to stop fails at its check, and then nothing has happened, or in one of its
rounds. -/
theorem run_fails {limit : Nat} (h : g.run reg env limit = some ⟨.error fault, g', env'⟩) :
    (reg.checkComplete g.table = .error fault ∧ g' = g ∧ env' = env) ∨
      fault.isFatal = true ∧ g'.frozen = true := by
  rw [run] at h
  cases hcomplete : reg.checkComplete g.table with
  | error missing =>
    rw [hcomplete] at h
    cases h
    exact .inl ⟨rfl, rfl, rfl⟩
  | ok done =>
    rw [hcomplete] at h
    obtain ⟨n, result, hrun, hresult⟩ := runUntilStopped_eq_runFor limit h
    cases result with
    | ok r => cases hresult
    | error fault' =>
      cases hresult
      exact .inr (runFor_fails n hrun)

/-! ## Requests -/

/-- The answer to a request, with the replica and the environment after it. -/
def serve (g : Engine) (env : Environment σ) : Request σ → Option (Run σ Answer)
  | .step e => some ⟨(g.step e).1.map .round, (g.step e).2, env⟩
  | .stepAll es => some ⟨(g.stepAll es).1.map .round, (g.stepAll es).2, env⟩
  | .runRound reg => (g.runRound reg env).map (Run.answer .round)
  | .runFor n reg => (g.runFor reg env n).map (Run.answer .round)
  | .run limit reg => (g.run reg env (limit + 1)).map (Run.answer .executed)

/-- The answers to requests in turn, with the replica and the environment after them. -/
def serveAll (g : Engine) (env : Environment σ) :
    List (Request σ) → Option (List (Except Error Answer) × Engine × Environment σ)
  | [] => some ([], g, env)
  | request :: requests =>
    (g.serve env request).bind fun run =>
      (run.engine.serveAll run.environment requests).map fun rest => (run.result :: rest.1, rest.2)

/-- What a frozen replica answers. -/
def refusal (g : Engine) (env : Environment σ) : Request σ → Except Error Answer
  | .stepAll [] | .runFor 0 _ => .ok (.round g.current)
  | .run _ reg =>
    match reg.checkComplete g.table with
    | .error fault => .error fault
    | .ok () => if env.stopped then .ok (.executed 0) else .error (.frozen g.current)
  | _ => .error (.frozen g.current)

theorem step_of_frozen (h : g.frozen = true) (e : Event) :
    g.step e = (.error (.frozen g.current), g) := by
  rw [step, apply, if_pos h]

/-- A frozen replica answers with its refusal, and stays as it is. -/
theorem serve_of_frozen (h : g.frozen = true) (env : Environment σ) (request : Request σ) :
    g.serve env request = some ⟨g.refusal env request, g, env⟩ := by
  cases request with
  | step e =>
    rw [serve, step_of_frozen h]
    rfl
  | stepAll es =>
    cases es with
    | nil => rfl
    | cons e es =>
      rw [serve, stepAll, step_of_frozen h]
      rfl
  | runRound reg =>
    rw [serve, runRound_of_frozen h]
    rfl
  | runFor n reg =>
    cases n with
    | zero => rfl
    | succ n =>
      rw [serve, runFor_succ_eq_some_iff.mpr (.inr ⟨_, runRound_of_frozen h reg env, rfl⟩)]
      rfl
  | run limit reg =>
    rw [serve, run, refusal]
    cases reg.checkComplete g.table with
    | error fault => rfl
    | ok done =>
      dsimp only
      rw [runUntilStopped, runRound_of_frozen h]
      split <;> rfl

/-- So it is after any requests. -/
theorem serveAll_of_frozen (h : g.frozen = true) (env : Environment σ)
    (requests : List (Request σ)) :
    g.serveAll env requests = some (requests.map (g.refusal env), g, env) := by
  induction requests with
  | nil => rfl
  | cons request requests ih =>
    rw [serveAll, serve_of_frozen h, Option.bind_some, ih]
    rfl

/-- A refusal does not depend on the work that a request brings. -/
theorem refusal_withWork (g : Engine) (env : Environment σ) (work : Round → Behaviour σ)
    (request : Request σ) :
    g.refusal env (request.withWork work) = g.refusal env request := by
  cases request with
  | step e => rfl
  | stepAll es => rfl
  | runRound reg => rfl
  | runFor n reg => cases n <;> rfl
  | run limit reg =>
    rw [Request.withWork, refusal, refusal, Registry.checkComplete_withWork]

/-- A request that fails leaves a frozen replica behind, unless it fails at the check for
completeness. -/
theorem serve_fails {request : Request σ}
    (h : g.serve env request = some ⟨.error fault, g', env'⟩) :
    (fault.isFatal = true ∧ g'.frozen = true) ∨ request.FailsCheck g.table fault ∧ g' = g ∧
      env' = env := by
  cases request with
  | step e =>
    left
    cases hstep : g.step e with
    | mk result g₁ =>
      rw [serve, hstep] at h
      cases result with
      | ok r => cases h
      | error fault' =>
        cases h
        exact apply_fails hstep
  | stepAll es =>
    left
    cases hstep : g.stepAll es with
    | mk result g₁ =>
      rw [serve, hstep] at h
      cases result with
      | ok r => cases h
      | error fault' =>
        cases h
        exact stepAll_fails es hstep
  | runRound reg =>
    left
    obtain ⟨run, hrun, hanswer⟩ := Option.map_eq_some_iff.mp h
    cases Run.eq_of_answer_eq_error hanswer
    exact runRound_fails hrun
  | runFor n reg =>
    left
    obtain ⟨run, hrun, hanswer⟩ := Option.map_eq_some_iff.mp h
    cases Run.eq_of_answer_eq_error hanswer
    exact runFor_fails n hrun
  | run limit reg =>
    obtain ⟨run, hrun, hanswer⟩ := Option.map_eq_some_iff.mp h
    cases Run.eq_of_answer_eq_error hanswer
    rcases run_fails hrun with hcheck | hfails
    · exact .inr hcheck
    · exact .inl hfails

/-- A fault freezes a running replica and does nothing else to it.  A frozen one answers every
request with its refusal, without a look at any work, and stays as it is with all that work can
touch.  And a request that fails leaves a frozen replica behind with a fatal error, unless it fails
at the check for completeness, which changes nothing. -/
theorem freezes_for_good (g : Engine) (env : Environment σ) :
    (g.frozen = false →
      (∀ e, e ∉ g.table.accepted g.current →
        ∃ g', g.step e = (.error (.protocolViolation g.current e), g') ∧ g'.StoppedAt g) ∧
      ∀ reg fault env', g.RoundFault reg env fault env' →
        ∃ g', g.runRound reg env = some ⟨.error fault, g', env'⟩ ∧ g'.StoppedAt g) ∧
    (g.frozen = true → ∀ requests : List (Request σ),
      g.serveAll env requests = some (requests.map (g.refusal env), g, env) ∧
      ∀ work, g.serveAll env (requests.map (Request.withWork work)) = g.serveAll env requests) ∧
    ∀ request fault g' env', g.serve env request = some ⟨.error fault, g', env'⟩ →
      (fault.isFatal = true ∧ g'.frozen = true) ∨ request.FailsCheck g.table fault ∧
      g' = g ∧ env' = env := by
  refine ⟨fun hrunning => ⟨fun e he => ?_, fun reg fault env' hfault => ?_⟩,
    fun hfrozen requests => ⟨serveAll_of_frozen hfrozen env requests, fun work => ?_⟩,
    fun request fault g' env' h => serve_fails h⟩
  · exact ⟨_, apply_of_not_mem_accepted hrunning he false, freeze_stoppedAt g⟩
  · exact ⟨_, (runRound_eq_error_iff hrunning).mpr ⟨hfault, rfl⟩, freeze_stoppedAt g⟩
  · rw [serveAll_of_frozen hfrozen, serveAll_of_frozen hfrozen, List.map_map]
    congr 2
    exact List.map_congr_left fun request _ => refusal_withWork g env work request

/-- A replica at the start of the pauses. -/
def pausing : Engine where
  table := pauses
  supervisor := .standard
  current := .resetAndPause
  period := 0
  frozen := false
  streak := .fresh
  history := .empty 2
  channel := .empty 1

/-- Work that waits forever, in both rounds of the pauses. -/
def stalls : Registry Unit := Registry.empty.registerAll pauses.states fun _ => .stall

/-- An empty store, a replica that has not been told to stop, and nothing to remember. -/
def idle : Environment Unit := ⟨.empty, false, ()⟩

/-- The first pause does not accept its timeout, and a replica that is stopped there refuses all but
a request for nothing.  A run without work is refused at the check, and freezes nothing. -/
theorem pauses_freezes :
    start pauses ⟨none, 1, 2⟩ .standard = .ok pausing ∧ pausing.frozen = false ∧
      (∃ g', pausing.step .wait = (.error (.protocolViolation .resetAndPause .wait), g') ∧
        g'.StoppedAt pausing) ∧
      (∃ g', pausing.runRound stalls idle =
          some ⟨.error (.protocolViolation .resetAndPause .resetAndPauseTimeout), g', idle⟩ ∧
        g'.StoppedAt pausing) ∧
      pausing.freeze.serveAll idle [.step .done, .runFor 0 stalls, .run 5 stalls] =
        some ([.error (.frozen .resetAndPause), .ok (.round .resetAndPause),
          .error (.frozen .resetAndPause)],
          pausing.freeze, idle) ∧
      (Request.run 5 (.empty : Registry Unit)).FailsCheck pauses
        (.missingBehaviour .pullMemes) := by
  refine ⟨rfl, rfl, ?_, ?_, ?_, ?_⟩
  · exact ((freezes_for_good pausing idle).1 rfl).1 .wait (by decide)
  · have hunrouted : Event.resetAndPauseTimeout ∉ pauses.accepted .resetAndPause := by decide
    exact ((freezes_for_good pausing idle).1 rfl).2 stalls _ idle
      (.unrouted (b := .fresh idle) rfl rfl hunrouted)
  · exact ((freezes_for_good pausing.freeze idle).2.1 rfl _).1
  · have hfails := (freezes_for_good pausing idle).2.2 (.run 5 .empty)
      (.missingBehaviour .pullMemes) pausing idle rfl
    exact (hfails.resolve_left fun h => Bool.noConfusion h.2).1

end Engine

end RoundWorkflow
