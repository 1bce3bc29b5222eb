import RoundWorkflow.Proofs.Deadlines
import RoundWorkflow.Proofs.StoreCalls

/-!
# Work that is cut off

A round that runs out of its budget goes on with its timeout, and its work is dropped where it
sleeps.  What the work did up to then stays done.  What it would have done later is not done:
not in this round, and not in any round after it.

The work that is looked at here is a `Program`, which changes the store by writes, updates and
appends only and does otherwise what it likes.  Left alone, a program makes its calls one after
the other, each at some time (`Program.calls`).  A time splits them (`Program.Splits`): those up
to it, and on it, come before all others.  A program that is cut off makes the former and not the
latter.  So the store after any number of rounds is what the calls of these rounds have made of
it, each round's up to its own deadline (`Engine.store_of_runFor`).

That nothing else is done later is also said by comparison.  `Work.upTo` is work without anything
that comes after a time: where it would sleep past it, it stalls.  A replica whose work is cut
down like this in advance cannot be told from one whose work is not, whatever it is asked to do
(`Engine.serveAll_cutDown`).  The main statement is `Engine.cut_off_for_good`.
-/

namespace RoundWorkflow

variable {σ : Type}

/-! ## Programs -/

/-- Work that changes the store by calls. -/
inductive Program (σ : Type) where
  /-- The work ends. -/
  | finish (result : Except Error Unit)
  /-- The work waits forever. -/
  | stall
  /-- The work waits for some milliseconds. -/
  | sleep (milliseconds : Nat) (rest : Program σ)
  /-- The work changes the store and goes on as the bench before the call tells. -/
  | call (c : StoreCall) (next : Bench σ → Program σ)
  /-- The work changes anything but the store, and goes on as the bench before the change tells. -/
  | aside (change : Bench σ → Bench σ) (next : Bench σ → Program σ)

namespace Program

/-- The bench after a call. -/
def afterCall (c : StoreCall) (b : Bench σ) : Bench σ := b.withStore (c.effect b.environment.store)

/-- The bench after a change that leaves the store alone. -/
def afterAside (change : Bench σ → Bench σ) (b : Bench σ) : Bench σ :=
  (change b).withStore b.environment.store

/-- The program, as work. -/
def work : Program σ → Work σ
  | .finish result => .finish result
  | .stall => .stall
  | .sleep ms rest => .sleep ms rest.work
  | .call c next => .act (afterCall c) fun b => (next b).work
  | .aside change next => .act (afterAside change) fun b => (next b).work

/-- The calls that a program makes when it is left alone, each with its time. -/
def calls : Program σ → Nat → Bench σ → List (Nat × StoreCall)
  | .finish _, _, _ => []
  | .stall, _, _ => []
  | .sleep ms rest, now, b => rest.calls (now + ms) b
  | .call c next, now, b => (now, c) :: (next b).calls now (afterCall c b)
  | .aside change next, now, b => (next b).calls now (afterAside change b)

/-- The program without anything that comes after a time. -/
def upTo (time : Nat) : Program σ → Nat → Program σ
  | .finish result, _ => .finish result
  | .stall, _ => .stall
  | .sleep ms rest, now => if now + ms ≤ time then .sleep ms (rest.upTo time (now + ms)) else .stall
  | .call c next, now => .call c fun b => (next b).upTo time now
  | .aside change next, now => .aside change fun b => (next b).upTo time now

theorem le_of_mem_calls {p : Program σ} {now : Nat} {b : Bench σ} {c : Nat × StoreCall}
    (h : c ∈ p.calls now b) :
    now ≤ c.1 := by
  induction p generalizing now b with
  | finish result => cases h
  | stall => cases h
  | sleep ms rest ih => exact Nat.le_trans (Nat.le_add_right now ms) (ih h)
  | call c' next ih =>
    rcases List.mem_cons.mp h with rfl | h
    · exact Nat.le_refl now
    · exact ih b h
  | aside change next ih => exact ih b h

/-- Of the calls of a program these are made up to a time, and those are not. -/
structure Splits (p : Program σ) (time now : Nat) (b : Bench σ)
    (made missed : List (Nat × StoreCall)) : Prop where
  calls : p.calls now b = made ++ missed
  inTime : ∀ c ∈ made, c.1 ≤ time
  late : ∀ c ∈ missed, time < c.1
  /-- The program without anything later makes the same ones, and no others. -/
  upTo : (p.upTo time now).calls now b = made

/-- The calls up to a time come before all others. -/
theorem exists_splits (p : Program σ) {time now : Nat} (b : Bench σ) (hnow : now ≤ time) :
    ∃ made missed, p.Splits time now b made missed := by
  induction p generalizing now b with
  | finish result => exact ⟨[], [], rfl, nofun, nofun, rfl⟩
  | stall => exact ⟨[], [], rfl, nofun, nofun, rfl⟩
  | sleep ms rest ih =>
    by_cases hsleep : now + ms ≤ time
    · obtain ⟨made, missed, hcalls, hin, hlate, hupTo⟩ := ih b hsleep
      refine ⟨made, missed, hcalls, hin, hlate, ?_⟩
      rw [Program.upTo, if_pos hsleep]
      exact hupTo
    · refine ⟨[], rest.calls (now + ms) b, rfl, nofun, fun c hc => ?_, ?_⟩
      · exact Nat.lt_of_lt_of_le (Nat.lt_of_not_le hsleep) (le_of_mem_calls hc)
      · rw [Program.upTo, if_neg hsleep]
        rfl
  | call c next ih =>
    obtain ⟨made, missed, hcalls, hin, hlate, hupTo⟩ := ih b (afterCall c b) hnow
    refine ⟨(now, c) :: made, missed, ?_, List.forall_mem_cons.mpr ⟨hnow, hin⟩, hlate, ?_⟩
    · exact congrArg ((now, c) :: ·) hcalls
    · exact congrArg ((now, c) :: ·) hupTo
  | aside change next ih =>
    obtain ⟨made, missed, hcalls, hin, hlate, hupTo⟩ := ih b (afterAside change b) hnow
    exact ⟨made, missed, hcalls, hin, hlate, hupTo⟩

/-- The program from a time on, without anything that comes after its deadline. -/
def within (deadline : Option Deadline) (p : Program σ) (now : Nat) : Program σ :=
  match deadline with
  | some d => p.upTo d.time now
  | none => p

/-- However a program ends, the store is what its calls up to the deadline have made of it. -/
theorem store_of_run (deadline : Option Deadline) (p : Program σ) (now : Nat) (b : Bench σ) :
    (p.work.run deadline now b).2.environment.store =
      StoreCall.effects (((p.within deadline now).calls now b).map Prod.snd)
        b.environment.store := by
  induction p generalizing now b with
  | finish result => cases deadline <;> rfl
  | stall => cases deadline <;> rfl
  | sleep ms rest ih =>
    cases deadline with
    | none => exact ih (now + ms) b
    | some d =>
      rw [work, Work.run, within, Program.upTo]
      by_cases hsleep : now + ms ≤ d.time
      · rw [if_pos hsleep, if_pos hsleep]
        exact ih (now + ms) b
      · rw [if_neg hsleep, if_neg hsleep]
        rfl
  | call c next ih => cases deadline <;> exact ih b now (afterCall c b)
  | aside change next ih => cases deadline <;> exact ih b now (afterAside change b)

end Program

/-! ## Work without what comes after a deadline -/

namespace Work

/-- The work without anything that comes after a time. -/
def upTo (time : Nat) : Work σ → Nat → Work σ
  | .finish result, _ => .finish result
  | .stall, _ => .stall
  | .sleep ms rest, now => if now + ms ≤ time then .sleep ms (rest.upTo time (now + ms)) else .stall
  | .act change next, now => .act change fun b => (next b).upTo time now

/-- A deadline does not see what would come after it. -/
theorem run_upTo (w : Work σ) (d : Deadline) (now : Nat) (b : Bench σ) :
    (w.upTo d.time now).run (some d) now b = w.run (some d) now b := by
  induction w generalizing now b with
  | finish result => rfl
  | stall => rfl
  | sleep ms rest ih =>
    by_cases hsleep : now + ms ≤ d.time
    · rw [upTo, if_pos hsleep, run, run, if_pos hsleep, if_pos hsleep]
      exact ih (now + ms) b
    · rw [upTo, if_neg hsleep, run, run, if_neg hsleep]
  | act change next ih => exact ih b now (change b)

/-- The work from a time on, without anything that comes after its deadline. -/
def within (deadline : Option Deadline) (w : Work σ) (now : Nat) : Work σ :=
  match deadline with
  | some d => w.upTo d.time now
  | none => w

theorem run_within (deadline : Option Deadline) (w : Work σ) (now : Nat) (b : Bench σ) :
    (w.within deadline now).run deadline now b = w.run deadline now b := by
  cases deadline with
  | none => rfl
  | some d => exact run_upTo w d now b

end Work

theorem Program.work_upTo (time : Nat) (p : Program σ) (now : Nat) :
    (p.upTo time now).work = p.work.upTo time now := by
  induction p generalizing now with
  | finish result => rfl
  | stall => rfl
  | sleep ms rest ih =>
    rw [Program.upTo, work, Work.upTo]
    split
    · rw [work, ih]
    · rfl
  | call c next ih => exact congrArg (Work.act _) (funext fun b => ih b now)
  | aside change next ih => exact congrArg (Work.act _) (funext fun b => ih b now)

/-- The registry of programs. -/
def Registry.ofPrograms (program? : Round → Option (Context → Program σ)) : Registry σ :=
  ⟨fun r => (program? r).map fun program ctx => (program ctx).work⟩

/-- With all work cut down to what comes before its deadline. -/
def Registry.cutDown (s : Supervisor) (reg : Registry σ) : Registry σ :=
  ⟨fun r => (reg.behaviour? r).map fun behaviour ctx => (behaviour ctx).within (s.deadline? r 0) 0⟩

theorem Registry.checkComplete_cutDown (s : Supervisor) (reg : Registry σ) (t : Table) :
    (reg.cutDown s).checkComplete t = reg.checkComplete t := by
  have hcontains : (reg.cutDown s).contains = reg.contains := by
    funext r
    exact Option.isSome_map
  rw [checkComplete, checkComplete, hcontains]

/-- The request with all work cut down. -/
def Request.cutDown (s : Supervisor) : Request σ → Request σ
  | .step e => .step e
  | .stepAll es => .stepAll es
  | .runRound reg => .runRound (reg.cutDown s)
  | .runFor n reg => .runFor n (reg.cutDown s)
  | .run limit reg => .run limit (reg.cutDown s)

namespace Engine

variable {g : Engine} {reg : Registry σ} {env : Environment σ}

/-- A round with other work that comes to the same is the same. -/
theorem runRound_congr {reg' : Registry σ} {behaviour behaviour' : Behaviour σ}
    (hrunning : g.frozen = false) (h : reg.behaviour? g.current = some behaviour)
    (h' : reg'.behaviour? g.current = some behaviour')
    (hattempt : g.attempt behaviour env = g.attempt behaviour' env) :
    g.runRound reg env = g.runRound reg' env := by
  rw [runRound_of_behaviour hrunning h, runRound_of_behaviour hrunning h', hattempt]

theorem runRound_cutDown : g.runRound (reg.cutDown g.supervisor) env = g.runRound reg env := by
  cases hfrozen : g.frozen with
  | true => rw [runRound_of_frozen hfrozen, runRound_of_frozen hfrozen]
  | false =>
    cases hbehaviour : reg.behaviour? g.current with
    | none =>
      have hmissing : (reg.cutDown g.supervisor).behaviour? g.current = none :=
        congrArg (Option.map _) hbehaviour
      rw [runRound_of_missing hfrozen hbehaviour, runRound_of_missing hfrozen hmissing]
    | some behaviour =>
      exact runRound_congr hfrozen (congrArg (Option.map _) hbehaviour) hbehaviour
        (Work.run_within _ _ 0 _)

theorem runFor_cutDown (n : Nat) :
    g.runFor (reg.cutDown g.supervisor) env n = g.runFor reg env n := by
  induction n generalizing g env with
  | zero => rfl
  | succ n ih =>
    rw [runFor, runFor, runRound_cutDown]
    cases hround : g.runRound reg env with
    | none => rfl
    | some round =>
      obtain ⟨result, g₁, env₁⟩ := round
      cases result with
      | error fault => rfl
      | ok r =>
        have hsupervisor : g₁.supervisor = g.supervisor := (runRound_turn hround).moves.supervisor
        dsimp only
        rw [← hsupervisor, ih]

theorem runUntilStopped_cutDown (limit executed : Nat) :
    g.runUntilStopped (reg.cutDown g.supervisor) env executed limit =
      g.runUntilStopped reg env executed limit := by
  induction limit generalizing g env executed with
  | zero => rfl
  | succ limit ih =>
    rw [runUntilStopped, runUntilStopped, runRound_cutDown]
    cases hround : g.runRound reg env with
    | none => rfl
    | some round =>
      obtain ⟨result, g₁, env₁⟩ := round
      cases result with
      | error fault => rfl
      | ok r =>
        have hsupervisor : g₁.supervisor = g.supervisor := (runRound_turn hround).moves.supervisor
        dsimp only
        rw [← hsupervisor, ih]

theorem serve_cutDown (request : Request σ) :
    g.serve env (request.cutDown g.supervisor) = g.serve env request := by
  cases request with
  | step e => rfl
  | stepAll es => rfl
  | runRound reg => rw [Request.cutDown, serve, serve, runRound_cutDown]
  | runFor n reg => rw [Request.cutDown, serve, serve, runFor_cutDown]
  | run limit reg =>
    rw [Request.cutDown, serve, serve, run, run, Registry.checkComplete_cutDown,
      runUntilStopped_cutDown]

/-- Whatever a replica is asked to do, it does the same without the work that comes after the
deadlines. -/
theorem serveAll_cutDown (requests : List (Request σ)) :
    g.serveAll env (requests.map (Request.cutDown g.supervisor)) = g.serveAll env requests := by
  induction requests generalizing g env with
  | nil => rfl
  | cons request requests ih =>
    rw [List.map_cons, serveAll, serveAll, serve_cutDown]
    refine Option.bind_congr fun run hrun => ?_
    have hsupervisor : run.engine.supervisor = g.supervisor :=
      (Call.moves (perform_call hrun)).supervisor
    rw [← hsupervisor, ih]

/-! ## The store of a run -/

/-- The calls that a round makes. -/
def callsOfRound (g : Engine) (program? : Round → Option (Context → Program σ))
    (env : Environment σ) :
    List StoreCall :=
  if g.frozen then []
  else
    match program? g.current with
    | none => []
    | some program =>
      (((program ⟨g.current, g.period⟩).within (g.supervisor.deadline? g.current 0) 0).calls
        0 (.fresh env)).map
        Prod.snd

/-- The calls that a number of rounds make, one after the other. -/
def callsOfRounds (g : Engine) (program? : Round → Option (Context → Program σ))
    (env : Environment σ) :
    Nat → List StoreCall
  | 0 => []
  | n + 1 =>
    g.callsOfRound program? env ++
      match g.runRound (.ofPrograms program?) env with
      | some ⟨.ok _, g', env'⟩ => g'.callsOfRounds program? env' n
      | _ => []

variable {program? : Round → Option (Context → Program σ)} {run : Run σ Round}

/-- What a round leaves in its environment is what its work has left on the bench. -/
theorem environment_of_runRound {behaviour : Behaviour σ} (hrunning : g.frozen = false)
    (h : reg.behaviour? g.current = some behaviour) (hround : g.runRound reg env = some run) :
    run.environment = (g.attempt behaviour env).2.environment := by
  rw [runRound_of_behaviour hrunning h] at hround
  obtain ⟨event, -, rfl⟩ := Option.map_eq_some_iff.mp hround
  cases event <;> rfl

theorem store_of_runRound (h : g.runRound (.ofPrograms program?) env = some run) :
    run.environment.store = StoreCall.effects (g.callsOfRound program? env) env.store := by
  cases hfrozen : g.frozen with
  | true =>
    rw [runRound_of_frozen hfrozen] at h
    cases h
    rw [callsOfRound, if_pos hfrozen]
    rfl
  | false =>
    rw [callsOfRound, if_neg (Bool.eq_false_iff.mp hfrozen)]
    cases hprogram : program? g.current with
    | none =>
      rw [runRound_of_missing hfrozen (congrArg (Option.map _) hprogram)] at h
      cases h
      rfl
    | some program =>
      rw [environment_of_runRound hfrozen (congrArg (Option.map _) hprogram) h]
      exact Program.store_of_run _ _ 0 (.fresh env)

/-- The store after any number of rounds is what their calls have made of it, one round after the
other. -/
theorem store_of_runFor (n : Nat) (h : g.runFor (.ofPrograms program?) env n = some run) :
    run.environment.store = StoreCall.effects (g.callsOfRounds program? env n) env.store := by
  induction n generalizing g env with
  | zero =>
    cases h
    rfl
  | succ n ih =>
    rw [callsOfRounds, StoreCall.effects_append]
    rcases runFor_succ_eq_some_iff.mp h with ⟨r, g₁, env₁, hround, hrest⟩ | ⟨fault, hround, hresult⟩
    · rw [← store_of_runRound hround, hround]
      exact ih hrest
    · rw [← store_of_runRound hround, hround]
      obtain ⟨result, g₁, env₁⟩ := run
      cases hresult
      rfl

/-- The work of the current round is a program, and it is cut off. -/
structure CutsOff (g : Engine) (reg : Registry σ) (program : Context → Program σ)
    (env : Environment σ) : Prop where
  running : g.frozen = false
  registered : reg.behaviour? g.current = some fun ctx => (program ctx).work
  timedOut : ∃ e time b, g.attempt (fun ctx => (program ctx).work) env = (.timedOut e time, b)

/-- A program that is cut off has made its calls up to the deadline, and on it, one after the other,
and the store is what they made of it.  The calls that would have come later are not made in this
round, nor at any time after: whatever the replica is asked to do next, all goes as it would have
gone with a program that does not have them.  So it is for all works of all rounds at once, and the
store of a run of programs is what their calls up to their deadlines have made of it. -/
theorem cut_off_for_good (g : Engine) (env : Environment σ) :
    (∀ reg program, g.CutsOff reg program env →
      ∃ d made missed run, g.supervisor.deadline? g.current 0 = some d ∧
        (program ⟨g.current, g.period⟩).Splits d.time 0 (.fresh env) made missed ∧
        g.runRound reg env = some run ∧
        run.environment.store = StoreCall.effects (made.map Prod.snd) env.store ∧
        ∀ requests, g.serveAll env (.runRound reg :: requests) =
          g.serveAll env
            (.runRound (reg.register g.current fun ctx => ((program ctx).upTo d.time 0).work) ::
              requests)) ∧
    (∀ requests, g.serveAll env (requests.map (Request.cutDown g.supervisor)) =
      g.serveAll env requests) ∧
    ∀ program? n run, g.runFor (.ofPrograms program?) env n = some run →
      run.environment.store = StoreCall.effects (g.callsOfRounds program? env n) env.store := by
  refine ⟨fun reg program h => ?_, serveAll_cutDown, fun program? n run => store_of_runFor n⟩
  obtain ⟨hrunning, hregistered, e, time, b, hattempt⟩ := h
  obtain ⟨d, hdeadline, -⟩ := Work.run_eq_timedOut hattempt
  obtain ⟨made, missed, hsplits⟩ :=
    (program ⟨g.current, g.period⟩).exists_splits (.fresh env) (Nat.zero_le d.time)
  have hround : g.runRound reg env = _ := runRound_of_behaviour hrunning hregistered
  rw [hattempt] at hround
  refine ⟨d, made, missed, _, hdeadline, hsplits, hround, ?_, fun requests => ?_⟩
  · rw [environment_of_runRound hrunning hregistered hround, attempt, Supervisor.supervise,
      Program.store_of_run, hdeadline, Program.within, hsplits.upTo]
    rfl
  · have hcut : g.runRound reg env =
        g.runRound (reg.register g.current fun ctx => ((program ctx).upTo d.time 0).work) env := by
      refine runRound_congr hrunning hregistered (if_pos rfl) ?_
      rw [attempt, attempt, Supervisor.supervise, Supervisor.supervise, hdeadline,
        Program.work_upTo, Work.run_upTo]
    rw [serveAll, serveAll, serve, serve, hcut]

/-- A program that writes at once, appends after five milliseconds, and writes again after six. -/
def tardy (_ : Context) : Program Unit :=
  .call (.write "pulled" (.bool true)) fun _ =>
    .sleep 5 (.call (.append "memes" (.string "first")) fun _ =>
      .sleep 1 (.call (.write "pulled" (.bool false)) fun _ => .finish (.ok ())))

/-- With a budget of five milliseconds the append is still made, and the second write is not, then
or later. -/
theorem tardy_cut_off :
    ∃ g₀ run, start waits .standard Supervisor.hurried = .ok g₀ ∧
      g₀.CutsOff (.ofPrograms fun _ => some tardy) tardy idle ∧
      g₀.runRound (.ofPrograms fun _ => some tardy) idle = some run ∧ run.result = .ok .pullMemes ∧
      run.environment.store =
        StoreCall.effects [.write "pulled" (.bool true),
          .append "memes" (.string "first")] idle.store ∧
      ∀ requests, g₀.serveAll idle (.runRound (.ofPrograms fun _ => some tardy) :: requests) =
        g₀.serveAll idle
          (.runRound ((Registry.ofPrograms fun _ => some tardy).register .pullMemes
            fun ctx => ((tardy ctx).upTo 5 0).work) :: requests) := by
  obtain ⟨g₀, hstart⟩ : ∃ g₀, start waits .standard Supervisor.hurried = .ok g₀ := ⟨_, rfl⟩
  have hcuts : g₀.CutsOff (.ofPrograms fun _ => some tardy) tardy idle := by
    cases hstart
    exact ⟨rfl, rfl, _, _, _, rfl⟩
  obtain ⟨d, made, missed, run, hdeadline, hsplits, hround, hstore, hlater⟩ :=
    (cut_off_for_good g₀ idle).1 (.ofPrograms fun _ => some tardy) tardy hcuts
  cases hstart
  cases hdeadline
  cases hsplits.upTo
  cases hround
  exact ⟨_, _, rfl, hcuts, rfl, rfl, hstore, hlater⟩

end Engine

end RoundWorkflow
