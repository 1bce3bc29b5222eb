import RoundWorkflow.Proofs.Faults
import RoundWorkflow.Proofs.Retries

/-!
# Progress

What validation checks of a table once is enough for every replica that runs it.  Starts
are states and edges end in states, so whatever a replica has been asked to do, it is in a
state (`Moves.mem_states`).  A state that is not final has an exit, so there the replica
accepts an event (`Table.exists_mem_accepted`).

A registry that is complete has work for every state.  So a replica never finds that work
is missing, whatever is asked of it and in whatever order (`serveAll_not_missing`).

What can still stop a replica is the work itself.  `WorksOut` says of one piece of work
what it takes: it ends in time, with an event that its round accepts, or it runs past its
deadline in a round that accepts its own timeout.  While the work that a replica comes to
works out, the replica goes on, for any number of rounds (`never_stuck`).
-/

namespace RoundWorkflow

variable {σ : Type}

/-- Whether the error says that work is missing. -/
def Error.isMissing : Error → Bool
  | .missingBehaviour _ => true
  | _ => false

/-- The call that answers a request. -/
def Request.call (env : Environment σ) : Request σ → Call
  | .step e => .step e
  | .stepAll es => .stepAll es
  | .runRound reg => .runRound reg env
  | .runFor n reg => .runFor n reg env
  | .run limit reg => .run (limit + 1) reg env

/-- The work that a request brings, if it brings any, is there for every state of a table. -/
def Request.HasWork (t : Table) : Request σ → Prop
  | .step _ | .stepAll _ => True
  | .runRound reg | .runFor _ reg | .run _ reg => reg.checkComplete t = .ok ()

/-! ## States and exits -/

/-- A state that is not final accepts an event. -/
theorem Table.exists_mem_accepted {t : Table} {r : Round} (h : r ∈ t.states) :
    t.isFinal r = true ∨ ∃ e, e ∈ t.accepted r := by
  by_cases hfinal : r ∈ t.specification.finals
  · exact .inl (decide_eq_true hfinal)
  · right
    obtain ⟨edge, hedge, rfl⟩ := t.sensible.exits r h hfinal
    exact ⟨edge.event, Table.mem_accepted_iff.mpr ⟨edge.target, hedge⟩⟩

/-- A registry is complete for a table exactly if it has work for every state. -/
theorem Registry.checkComplete_eq_ok_iff {reg : Registry σ} {t : Table} :
    reg.checkComplete t = .ok () ↔
      ∀ r ∈ t.states, ∃ behaviour, reg.behaviour? r = some behaviour := by
  have hfind : (t.states.find? fun r => !reg.contains r) = none ↔
      ∀ r ∈ t.states, ∃ behaviour, reg.behaviour? r = some behaviour := by
    rw [List.find?_eq_none]
    simp only [Bool.not_eq_true', Bool.not_eq_false, contains, Option.isSome_iff_exists]
  rw [← hfind, checkComplete]
  split <;> simp [*]

/-- Work that is cut off is cut off by its deadline. -/
theorem Work.run_eq_timedOut {w : Work σ} {deadline : Option Deadline} {now time : Nat}
    {b b' : Bench σ} {e : Event}
    (h : w.run deadline now b = (.timedOut e time, b')) : ∃ d, deadline = some d ∧ d.event = e := by
  induction w generalizing now b with
  | finish result => cases h
  | stall =>
    cases deadline with
    | none => cases h
    | some d =>
      cases h
      exact ⟨d, rfl, rfl⟩
  | sleep ms rest ih =>
    cases deadline with
    | none => exact ih h
    | some d =>
      rw [run] at h
      split at h
      · exact ih h
      · cases h
        exact ⟨d, rfl, rfl⟩
  | act change next ih => exact ih b h

theorem Supervisor.event_of_deadline? {s : Supervisor} {r : Round} {now : Nat} {d : Deadline}
    (h : s.deadline? r now = some d) : r.timeoutEvent = some d.event := by
  unfold deadline? at h
  split at h
  · split at h
    · cases h
      assumption
    · cases h
  · cases h

namespace Engine

variable {g g' : Engine} {L : TransitionLog} {reg : Registry σ}
  {env env' : Environment σ} {fault : Error}

/-- Moves lead from a state to a state. -/
theorem Moves.mem_states (h : g.Moves L g') (hstate : g.current ∈ g.table.states) :
    g'.current ∈ g'.table.states := by
  induction h with
  | refl => exact hstate
  | freeze _ ih => exact ih
  | move _ hnext _ => exact Table.mem_states_of_next hnext

theorem SetUp.mem_states {t : Table} {c : EngineConfig} (h : SetUp t c g) :
    g.current ∈ g.table.states := by
  rw [h.table]
  exact Table.mem_states_of_isStart h.isStart

/-- The event of work that is cut off is the timeout of its round. -/
theorem timeoutEvent_of_attempt {behaviour : Behaviour σ} {e : Event} {time : Nat} {b : Bench σ}
    (h : g.attempt behaviour env = (.timedOut e time, b)) : g.current.timeoutEvent = some e := by
  obtain ⟨d, hdeadline, rfl⟩ := Work.run_eq_timedOut h
  exact Supervisor.event_of_deadline? hdeadline

/-! ## Work that is there -/

theorem apply_not_missing {e : Event} {timedOut : Bool}
    (h : g.apply e timedOut = (.error fault, g')) :
    fault.isMissing = false := by
  cases hfrozen : g.frozen with
  | true =>
    rw [apply, if_pos hfrozen] at h
    cases h
    rfl
  | false =>
    obtain ⟨-, rfl, -⟩ := (apply_eq_error_iff hfrozen).mp h
    rfl

theorem stepAll_not_missing (es : List Event) (h : g.stepAll es = (.error fault, g')) :
    fault.isMissing = false := by
  induction es generalizing g with
  | nil => cases h
  | cons e es ih =>
    rw [stepAll] at h
    cases hstep : g.step e with
    | mk result g₁ =>
      rw [hstep] at h
      cases result with
      | ok r => exact ih h
      | error fault' =>
        cases h
        exact apply_not_missing hstep

/-- In a state a complete registry has work for the round, so what fails is something else. -/
theorem runRound_not_missing (hstate : g.current ∈ g.table.states)
    (hcomplete : reg.checkComplete g.table = .ok ())
    (h : g.runRound reg env = some ⟨.error fault, g', env'⟩) : fault.isMissing = false := by
  cases hfrozen : g.frozen with
  | true =>
    rw [runRound_of_frozen hfrozen] at h
    cases h
    rfl
  | false =>
    obtain ⟨hfault, -⟩ := (runRound_eq_error_iff hfrozen).mp h
    cases hfault with
    | missing hnone =>
      obtain ⟨behaviour, hsome⟩ := Registry.checkComplete_eq_ok_iff.mp hcomplete _ hstate
      cases hnone.symm.trans hsome
    | failed _ _ => rfl
    | unconcluded _ _ _ => rfl
    | violation _ _ _ _ => rfl
    | unrouted _ _ _ => rfl

theorem runFor_not_missing (n : Nat) (hstate : g.current ∈ g.table.states)
    (hcomplete : reg.checkComplete g.table = .ok ())
    (h : g.runFor reg env n = some ⟨.error fault, g', env'⟩) :
    fault.isMissing = false := by
  induction n generalizing g env with
  | zero => cases h
  | succ n ih =>
    rcases runFor_succ_eq_some_iff.mp h with ⟨r, g₁, env₁, hround, hrest⟩ | ⟨_, hround, -⟩
    · have hmoves := (runRound_turn hround).moves
      exact ih (hmoves.mem_states hstate) (hmoves.table ▸ hcomplete) hrest
    · exact runRound_not_missing hstate hcomplete hround

theorem run_not_missing {limit : Nat} (hstate : g.current ∈ g.table.states)
    (hcomplete : reg.checkComplete g.table = .ok ())
    (h : g.run reg env limit = some ⟨.error fault, g', env'⟩) :
    fault.isMissing = false := by
  rw [run, hcomplete] at h
  obtain ⟨n, result, hrun, hresult⟩ := runUntilStopped_eq_runFor limit h
  cases result with
  | ok r => cases hresult
  | error fault' =>
    cases hresult
    exact runFor_not_missing n hstate hcomplete hrun

/-- A request is answered by a call. -/
theorem perform_call {request : Request σ} {run : Run σ Answer}
    (h : g.serve env request = some run) :
    (request.call env).perform g = some run.engine := by
  cases request with
  | step e =>
    cases h
    rfl
  | stepAll es =>
    cases h
    rfl
  | runRound reg =>
    obtain ⟨round, hround, rfl⟩ := Option.map_eq_some_iff.mp h
    exact Option.map_eq_some_iff.mpr ⟨round, hround, rfl⟩
  | runFor n reg =>
    obtain ⟨rounds, hrounds, rfl⟩ := Option.map_eq_some_iff.mp h
    exact Option.map_eq_some_iff.mpr ⟨rounds, hrounds, rfl⟩
  | run limit reg =>
    obtain ⟨rounds, hrounds, rfl⟩ := Option.map_eq_some_iff.mp h
    exact Option.map_eq_some_iff.mpr ⟨rounds, hrounds, rfl⟩

theorem serve_not_missing {request : Request σ} (hstate : g.current ∈ g.table.states)
    (hcomplete : request.HasWork g.table)
    (h : g.serve env request = some ⟨.error fault, g', env'⟩) :
    fault.isMissing = false := by
  cases request with
  | step e =>
    cases hstep : g.step e with
    | mk result g₁ =>
      rw [serve, hstep] at h
      cases result with
      | ok r => cases h
      | error fault' =>
        cases h
        exact apply_not_missing hstep
  | stepAll es =>
    cases hstep : g.stepAll es with
    | mk result g₁ =>
      rw [serve, hstep] at h
      cases result with
      | ok r => cases h
      | error fault' =>
        cases h
        exact stepAll_not_missing es hstep
  | runRound reg =>
    obtain ⟨run, hrun, hanswer⟩ := Option.map_eq_some_iff.mp h
    cases Run.eq_of_answer_eq_error hanswer
    exact runRound_not_missing hstate hcomplete hrun
  | runFor n reg =>
    obtain ⟨run, hrun, hanswer⟩ := Option.map_eq_some_iff.mp h
    cases Run.eq_of_answer_eq_error hanswer
    exact runFor_not_missing n hstate hcomplete hrun
  | run limit reg =>
    obtain ⟨run, hrun, hanswer⟩ := Option.map_eq_some_iff.mp h
    cases Run.eq_of_answer_eq_error hanswer
    exact run_not_missing hstate hcomplete hrun

/-- Requests with work for every state are never answered with its lack. -/
theorem serveAll_not_missing {requests : List (Request σ)} {answers : List (Except Error Answer)}
    (hstate : g.current ∈ g.table.states)
    (hcomplete : ∀ request ∈ requests, request.HasWork g.table)
    (h : g.serveAll env requests = some (answers, g', env')) :
    ∀ fault, .error fault ∈ answers → fault.isMissing = false := by
  induction requests generalizing g env answers with
  | nil =>
    cases h
    intro fault hfault
    cases hfault
  | cons request requests ih =>
    obtain ⟨run, hrun, hrest⟩ := Option.bind_eq_some_iff.mp h
    obtain ⟨⟨others, end_⟩, hothers, hanswers⟩ := Option.map_eq_some_iff.mp hrest
    cases hanswers
    have hmoves := Call.moves (perform_call hrun)
    have hcompletes : ∀ request ∈ requests,
        request.HasWork run.engine.table := fun request hrequest =>
      hmoves.table ▸ hcomplete request (List.mem_cons_of_mem _ hrequest)
    intro fault hfault
    rcases List.mem_cons.mp hfault with hfirst | hlater
    · obtain ⟨result, g₁, env₁⟩ := run
      cases hfirst
      exact serve_not_missing hstate (hcomplete request List.mem_cons_self) hrun
    · exact ih (hmoves.mem_states hstate) hcompletes hothers fault hlater

/-! ## Work that works out -/

/-- The work of a behaviour ends in time, with an event that the current round accepts, or it runs
past the deadline of a round that accepts its own timeout. -/
inductive WorksOut (g : Engine) (behaviour : Behaviour σ) (env : Environment σ) : Prop where
  | concludes {e : Event} {time : Nat} {b : Bench σ} : g.attempt behaviour env =
    (.finished (.ok ()) time, b) →
    b.outcome = some e → e ∈ g.table.accepted g.current → WorksOut g behaviour env
  | overruns {e e' : Event} {time : Nat} {b : Bench σ} : g.attempt behaviour env =
    (.timedOut e time, b) →
    g.current.timeoutEvent = some e' → e' ∈ g.table.accepted g.current → WorksOut g behaviour env

/-- All work that a replica comes to, running rounds one after the other, works out. -/
def AllWorksOut (g : Engine) (reg : Registry σ) (env : Environment σ) : Prop :=
  ∀ n r g' env', g.runFor reg env n = some ⟨.ok r, g', env'⟩ →
    ∀ behaviour, reg.behaviour? g'.current = some behaviour → g'.WorksOut behaviour env'

/-- Work that works out moves the replica. -/
theorem WorksOut.runRound_eq {behaviour : Behaviour σ} (h : g.WorksOut behaviour env)
    (hrunning : g.frozen = false) (hbehaviour : reg.behaviour? g.current = some behaviour) :
    ∃ e r timedOut env', g.table.next g.current e = .ok r ∧
      g.runRound reg env = some ⟨.ok r, g.move ⟨g.current, e, r⟩ timedOut, env'⟩ := by
  -- However it ends, an event comes of it that the round accepts.
  have happlied : ∃ e timedOut env', e ∈ g.table.accepted g.current ∧
      g.runRound reg env = some ⟨(g.apply e timedOut).1, (g.apply e timedOut).2, env'⟩ := by
    rw [runRound_of_behaviour hrunning hbehaviour]
    cases h with
    | @concludes e time b hattempt houtcome haccepted =>
      refine ⟨e, false, b.environment, haccepted, ?_⟩
      rw [hattempt, eventOf, Bench.result, houtcome]
      rfl
    | @overruns e e' time b hattempt htimeout haccepted =>
      cases (timeoutEvent_of_attempt hattempt).symm.trans htimeout
      refine ⟨e, true, b.environment, haccepted, ?_⟩
      rw [hattempt]
      rfl
  obtain ⟨e, timedOut, env', haccepted, hround⟩ := happlied
  obtain ⟨r, hedge⟩ := Table.mem_accepted_iff.mp haccepted
  have hnext := Table.next_eq_ok_iff.mpr hedge
  rw [apply_of_next_ok hrunning hnext] at hround
  exact ⟨e, r, timedOut, env', hnext, hround⟩

/-- While all work works out, rounds succeed. -/
theorem AllWorksOut.runFor_eq (h : g.AllWorksOut reg env) (hrunning : g.frozen = false)
    (hstate : g.current ∈ g.table.states) (hcomplete : reg.checkComplete g.table = .ok ())
    (n : Nat) :
    ∃ r g' env', g.runFor reg env n = some ⟨.ok r, g', env'⟩ := by
  induction n generalizing g env with
  | zero => exact ⟨_, _, _, rfl⟩
  | succ n ih =>
    obtain ⟨behaviour, hbehaviour⟩ := Registry.checkComplete_eq_ok_iff.mp hcomplete _ hstate
    have hworks : g.WorksOut behaviour env := h 0 _ _ _ rfl behaviour hbehaviour
    obtain ⟨e, r, timedOut, env₁, hnext, hround⟩ := hworks.runRound_eq hrunning hbehaviour
    have hrest : (g.move ⟨g.current, e, r⟩ timedOut).AllWorksOut reg env₁ :=
      fun m r' g' env' hrun =>
      h (m + 1) r' g' env' (runFor_succ_eq_some_iff.mpr (.inl ⟨_, _, _, hround, hrun⟩))
    obtain ⟨r', g', env', hrun⟩ := ih hrest hrunning (Table.mem_states_of_next hnext) hcomplete
    exact ⟨r', g', env', runFor_succ_eq_some_iff.mpr (.inl ⟨_, _, _, hround, hrun⟩)⟩

/-- Work that works out wherever it is done does so wherever a replica comes to. -/
theorem allWorksOut_of_forall {t : Table} {s : Supervisor} (htable : g.table = t)
    (hsupervisor : g.supervisor = s)
    (h : ∀ (g' : Engine) (env' : Environment σ) (behaviour : Behaviour σ), g'.table = t →
      g'.supervisor = s →
      reg.behaviour? g'.current = some behaviour →
      g'.WorksOut behaviour env') : g.AllWorksOut reg env := by
  intro n r g' env' hrun behaviour hbehaviour
  have hmoves := g.runFor_moves n hrun
  exact h g' env' behaviour (hmoves.table.trans htable)
    (hmoves.supervisor.trans hsupervisor) hbehaviour

/-- Whatever a replica has been asked to do, it is in a state, and the state is final or accepts an
event.  Requests that bring work for every state are never answered with its lack.  And if all work
works out that a running replica comes to, it runs for any number of rounds. -/
theorem never_stuck {t : Table} {c : EngineConfig} {s : Supervisor} {g₀ g : Engine}
    {calls : List Call} (hstart : start t c s = .ok g₀) (hcalls : g₀.performAll calls = some g) :
    g.current ∈ t.states ∧ (t.isFinal g.current = true ∨ ∃ e, e ∈ t.accepted g.current) ∧
      (∀ {σ : Type} (env : Environment σ) (requests : List (Request σ)),
        (∀ request ∈ requests, request.HasWork t) →
        ∀ answers g' env', g.serveAll env requests = some (answers, g', env') →
          ∀ r, .error (.missingBehaviour r) ∉ answers) ∧
      ∀ {σ : Type} (reg : Registry σ) (env : Environment σ), reg.checkComplete t = .ok () →
        g.frozen = false →
        g.AllWorksOut reg env → ∀ n, ∃ r g' env', g.runFor reg env n = some ⟨.ok r, g', env'⟩ := by
  have hsetUp := start_setUp hstart
  have hmoves := performAll_moves hcalls
  have htable : g.table = t := hmoves.table.trans hsetUp.table
  have hstate : g.current ∈ g.table.states := hmoves.mem_states hsetUp.mem_states
  subst htable
  refine ⟨hstate, Table.exists_mem_accepted hstate,
    fun env requests hcomplete answers g' env' h r hr => ?_,
    fun reg env hcomplete hrunning hworks n => hworks.runFor_eq hrunning hstate hcomplete n⟩
  cases serveAll_not_missing hstate hcomplete h _ hr

/-- Every round is done; the pulling of items takes longer than its budget every other time. -/
def laggard : Registry Bool :=
  Registry.empty.registerAll waits.states fun ctx =>
    let done : Work Bool := .try_ (fun b => b.conclude ctx.round .done) (.finish (.ok ()))
    .act (fun b => b.withMemory !b.environment.memory) fun b =>
      if ctx.round = .pullMemes && b.environment.memory then .sleep 31000 done else done

theorem laggard_worksOut {g : Engine} {env : Environment Bool} {behaviour : Behaviour Bool}
    (htable : g.table = waits) (hsupervisor : g.supervisor = .standard)
    (hbehaviour : laggard.behaviour? g.current = some behaviour) :
    g.WorksOut behaviour env := by
  obtain ⟨table, supervisor, current, period, frozen, streak, history, channel⟩ := g
  obtain ⟨store, stopped, late⟩ := env
  cases htable
  cases hsupervisor
  have hdone : Event.done ∈ waits.accepted .pullMemes ∧
      Event.done ∈ waits.accepted .resetAndPause := by decide
  cases current with
  | pullMemes =>
    cases hbehaviour
    cases late with
    | false => exact .concludes rfl rfl hdone.1
    | true =>
      have htimeout : Event.roundTimeout ∈ waits.accepted .pullMemes := by decide
      exact .overruns rfl rfl htimeout
  | resetAndPause =>
    cases hbehaviour
    exact .concludes rfl rfl hdone.2
  | _ => cases hbehaviour

/-- A replica with a slow puller runs for any number of rounds.  When it is asked for an event that
its round does not accept, it is not for want of work that it stops. -/
theorem waits_never_stuck :
    ∃ g₀ g, start waits ⟨none, 1, 2⟩ .standard = .ok g₀ ∧
      g₀.performAll [.stepAll [.noMajority, .done]] = some g ∧
      g.current ∈ waits.states ∧ laggard.checkComplete waits = .ok () ∧
      (∃ answers end_, g.serveAll ⟨.empty, false, true⟩ [.runFor 2 laggard, .step .wait,
          .runRound laggard] =
          some (answers, end_) ∧ answers.length = 3 ∧
            .error (.missingBehaviour .pullMemes) ∉ answers) ∧
      ∀ n, ∃ r g' env', g.runFor laggard ⟨.empty, false, true⟩ n = some ⟨.ok r, g', env'⟩ := by
  have hstuck :=
    @never_stuck waits ⟨none, 1, 2⟩ .standard _ _ [.stepAll [.noMajority, .done]] rfl rfl
  obtain ⟨hstate, -, hanswers, hruns⟩ := hstuck
  refine ⟨_, _, rfl, rfl, hstate, rfl, ⟨_, _, rfl, rfl, ?_⟩, ?_⟩
  · have hwork : ∀ request ∈ [Request.runFor 2 laggard, .step .wait, .runRound laggard],
        request.HasWork waits := by
      intro request hrequest
      rcases List.mem_cons.mp hrequest with rfl | hrequest
      · rfl
      rcases List.mem_cons.mp hrequest with rfl | hrequest
      · trivial
      cases List.mem_singleton.mp hrequest
      rfl
    exact hanswers ⟨.empty, false, true⟩ _ hwork _ _ _ rfl .pullMemes
  · exact hruns laggard ⟨.empty, false, true⟩ rfl rfl
      (allWorksOut_of_forall rfl rfl fun g env behaviour => laggard_worksOut)

end Engine

end RoundWorkflow
