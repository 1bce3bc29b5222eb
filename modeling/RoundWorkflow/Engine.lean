import RoundWorkflow.Behaviour
import RoundWorkflow.Channel
import RoundWorkflow.History

/-!
# The engine of a replica

An engine owns the current round and moves it.  A step takes one event, looks it up in
the table, records the transition, and tells the subscribers.  The period grows by one
when the workflow goes from the pause to the pulling of items; the transition that does
this is still part of the old period.

A step that the table does not know freezes the replica at its round, and so does work
that is missing, fails or ends without an outcome.  A frozen replica refuses
everything.

Where a replica goes depends on the events alone.  Budgets decide only whether the
event of a round is its outcome or its timeout; the store, the caps and the subscribers
decide nothing.
-/

namespace RoundWorkflow

/-- How an engine is set up. -/
structure EngineConfig where
  /-- The round to start from, if not the default start of the table. -/
  startState : Option Round
  /-- The number of notifications held for a subscriber. -/
  notificationCapacity : UInt64
  /-- The number of records the history shows. -/
  historyCapacity : UInt64
  deriving DecidableEq, Repr, Inhabited

/-- The set-up of an engine unless it is configured otherwise. -/
def EngineConfig.standard : EngineConfig := ⟨none, 1024, UInt64.ofNat defaultHistoryCapacity⟩

/-- The capacity that is asked of the channel for notifications: room for one at least. -/
def EngineConfig.channelCapacity (c : EngineConfig) : Nat := max c.notificationCapacity.toNat 1

/-- A notification of a transition. -/
structure Change (ρ : Type) where
  /-- The record of the transition. -/
  record : ρ
  /-- Whether the transition was the first past the cap of its round. -/
  limitExceeded : Bool
  /-- The number of retries in a row. -/
  consecutive : UInt32
  deriving DecidableEq, Repr, Inhabited

/-- The state of a replica. -/
structure Engine where
  /-- The round graph. -/
  table : Table
  /-- Budgets and retry policies. -/
  supervisor : Supervisor
  /-- The current round. -/
  current : Round
  /-- The number of periods completed. -/
  period : Nat
  /-- Whether the replica stands still for good. -/
  frozen : Bool
  /-- The run of retries that the latest transitions are part of. -/
  streak : Streak
  /-- The latest transitions. -/
  history : History
  /-- The notifications. -/
  channel : Channel (Change Record)

/-- What an operation on a replica ends with. -/
structure Run (σ α : Type) where
  /-- The result. -/
  result : Except Error α
  /-- The replica afterwards. -/
  engine : Engine
  /-- What the work of the rounds can touch, afterwards. -/
  environment : Environment σ

/-- How the launch of a replica ends. -/
inductive Launch where
  /-- The replica is at its start. -/
  | ready (g : Engine)
  | refused (fault : Error)
  /-- The channel was asked for a capacity that may not be asked for, and that is the end of the
  program. -/
  | aborted

namespace Engine

variable {σ : Type}

/-- A replica at its start. -/
def start (t : Table) (c : EngineConfig) (s : Supervisor) : Except Error Engine :=
  let r := c.startState.getD t.defaultStart
  if t.isStart r then
    .ok
      { table := t
        supervisor := s
        current := r
        period := 0
        frozen := false
        streak := .fresh
        history := .empty c.historyCapacity.toNat
        channel := .empty c.channelCapacity }
  else .error (.notAStart r)

/-- Launches a replica, with memory for all that it asks for. -/
def launch (t : Table) (c : EngineConfig) (s : Supervisor) : Launch :=
  match start t c s with
  | .error fault => .refused fault
  | .ok g => if Channel.isMadeFor c.channelCapacity then .ready g else .aborted

/-- The number of transitions so far. -/
def steps (g : Engine) : Nat := g.history.total

/-- The replica, frozen. -/
def freeze (g : Engine) : Engine := { g with frozen := true }

/-! ## Steps -/

/-- Whether a transition completes a period. -/
def completesPeriod (e : Edge) : Bool := e.source = .resetAndPause && e.target = .pullMemes

/-- The replica after a transition. -/
def move (g : Engine) (e : Edge) (timedOut : Bool) : Engine :=
  let (streak, signal) := g.streak.record e.source e.target (g.supervisor.policy e.source)
  { g with
    current := e.target
    period := if completesPeriod e then g.period + 1 else g.period
    streak := streak
    history := g.history.record e g.period timedOut
    channel := g.channel.send ⟨g.history.next e g.period timedOut, signal, streak.consecutive⟩ }

/-- Applies an event to the current round. -/
def apply (g : Engine) (e : Event) (timedOut : Bool) : Except Error Round × Engine :=
  if g.frozen then (.error (.frozen g.current), g)
  else
    match g.table.next g.current e with
    | .ok r => (.ok r, g.move ⟨g.current, e, r⟩ timedOut)
    | .error fault => (.error fault, g.freeze)

/-- Applies one event. -/
def step (g : Engine) (e : Event) : Except Error Round × Engine := g.apply e false

/-- Applies events in turn, up to the first that fails. -/
def stepAll (g : Engine) : List Event → Except Error Round × Engine
  | [] => (.ok g.current, g)
  | e :: es =>
    match g.step e with
    | (.ok _, g') => g'.stepAll es
    | (.error fault, g') => (.error fault, g')

/-! ## Rounds -/

/-- The event that ended work concludes or stands for, and whether it was injected. -/
def eventOf (r : Round) (b : Bench σ) : Ending → Option (Except Error (Event × Bool))
  | .finished (.ok ()) _ => some ((b.result r).map fun e => (e, false))
  | .finished (.error cause) _ => some (.error (.behaviourFailed r cause))
  | .timedOut e _ => some (.ok (e, true))
  | .never => none

/-- Does the work of the current round and applies its event.  There is no result when the work
never ends. -/
def runRound (g : Engine) (reg : Registry σ) (env : Environment σ) : Option (Run σ Round) :=
  if g.frozen then some ⟨.error (.frozen g.current), g, env⟩
  else
    match reg.get g.current with
    | .error fault => some ⟨.error fault, g.freeze, env⟩
    | .ok behaviour =>
      let (ending, b) :=
        g.supervisor.supervise g.current (behaviour ⟨g.current, g.period⟩) 0 (.fresh env)
      (eventOf g.current b ending).map fun
        | .ok (e, timedOut) =>
          let (result, g') := g.apply e timedOut
          ⟨result, g', b.environment⟩
        | .error fault => ⟨.error fault, g.freeze, b.environment⟩

/-- A round has a result unless its work waits forever. -/
theorem runRound_isSome {reg : Registry σ} (h : reg.Ends) (g : Engine) (env : Environment σ) :
    (g.runRound reg env).isSome := by
  rw [runRound]
  split
  · rfl
  · split
    · rfl
    · rename_i behaviour hget
      have hends := (h.of_get hget ⟨g.current, g.period⟩).run_ne_never
        (g.supervisor.deadline? g.current 0) 0 (.fresh env)
      simp only [Supervisor.supervise, Option.isSome_map]
      revert hends
      cases ((behaviour ⟨g.current, g.period⟩).run (g.supervisor.deadline? g.current 0) 0
          (.fresh env)).1 with
      | finished result _ => intro _; cases result <;> rfl
      | timedOut => intro _; rfl
      | never => intro hends; exact absurd rfl hends

/-- Runs a number of rounds, up to the first that fails. -/
def runFor (g : Engine) (reg : Registry σ) (env : Environment σ) : Nat → Option (Run σ Round)
  | 0 => some ⟨.ok g.current, g, env⟩
  | n + 1 =>
    match g.runRound reg env with
    | none => none
    | some ⟨.ok _, g', env'⟩ => g'.runFor reg env' n
    | some ⟨.error fault, g', env'⟩ => some ⟨.error fault, g', env'⟩

/-- Rounds have a result unless their work waits forever. -/
theorem runFor_isSome {reg : Registry σ} (h : reg.Ends) (n : Nat) (g : Engine)
    (env : Environment σ) :
    (g.runFor reg env n).isSome := by
  induction n generalizing g env with
  | zero => rfl
  | succ n ih =>
    rw [runFor]
    have hround := runRound_isSome h g env
    split
    · rename_i hnone; simp [hnone] at hround
    · exact ih _ _
    · rfl

/-- Runs rounds until the replica is told to stop, at most `limit` of them; `executed` have been run
before. -/
def runUntilStopped (g : Engine) (reg : Registry σ) (env : Environment σ) (executed : Nat) :
    (limit : Nat) → Option (Run σ Nat)
  | 0 => if env.stopped then some ⟨.ok executed, g, env⟩ else none
  | limit + 1 =>
    if env.stopped then some ⟨.ok executed, g, env⟩
    else
      match g.runRound reg env with
      | none => none
      | some ⟨.ok _, g', env'⟩ => g'.runUntilStopped reg env' (executed + 1) limit
      | some ⟨.error fault, g', env'⟩ => some ⟨.error fault, g', env'⟩

/-- Runs rounds until the replica is told to stop, if every state has a behaviour.  There is no
result when that takes more than `limit` rounds. -/
def run (g : Engine) (reg : Registry σ) (env : Environment σ) (limit : Nat) : Option (Run σ Nat) :=
  match reg.checkComplete g.table with
  | .error fault => some ⟨.error fault, g, env⟩
  | .ok () => g.runUntilStopped reg env 0 limit

end Engine

end RoundWorkflow
