import RoundWorkflow.Engine
import RoundWorkflow.Random
import RoundWorkflow.Report

/-!
# Simulation

A simulation runs the engine with work that makes things up.  A round concludes `DONE`
most of the time, and otherwise one of the events it accepts that are no timeouts, all
of them equally likely; a round that accepts none of them concludes `DONE` and has to
see what comes of it.

The settlement of transactions goes through the store.  A validation that succeeds
leaves the hash of its period.  The preparation of an action that finds such a hash
files it, clears it, and succeeds, without asking the random source.  A published post
is filed under its period.
-/

namespace RoundWorkflow.Simulation

/-- The key of the hash that waits to be settled. -/
def hashKey : String := "final_tx_hash"

/-- The key of the hashes that were settled. -/
def settledKey : String := "settled_tx_hashes"

/-- The key of the published posts. -/
def postsKey : String := "tweets"

/-- The hexadecimal digits of a number, with zeros before them up to a width. -/
def hexPadded : (width : Nat) → Nat → List Char
  | 0, _ => []
  | width + 1, n => hexPadded width (n / 16) ++ [Json.hexDigit (n % 16)]

/-- The hash of the transaction of a period. -/
def hashOf (period : Nat) : String := "0x" ++ String.ofList (hexPadded 64 period)

/-- The events that simulated work may conclude a round with. -/
def choices (t : Table) (r : Round) : List Event := (t.accepted r).filter fun e => !e.isTimeout

variable {σ : Type} [RandomSource σ]

/-- The event that a round concludes, of those it may conclude. -/
def pick (choices : List Event) (s : σ) : Event × σ :=
  match choices with
  | [] => (.done, s)
  | e :: es =>
    if (e :: es).contains .done then
      match RandomSource.likely s with
      | (true, s) => (.done, s)
      | (false, s) => RandomSource.choose e es s
    else RandomSource.choose e es s

/-- The hash that waits to be settled. -/
def pendingHash? (s : Store) : Option String :=
  match s.read hashKey with
  | some (.string hash) => some hash
  | _ => none

/-- Files a hash as settled, clears it, and succeeds. -/
def settle (ctx : Context) (hash : String) : Work σ :=
  .try_ (fun b => (b.environment.store.append settledKey (.string hash)).map fun p =>
    b.withStore p.2) <|
    .act (fun b => b.withStore (b.environment.store.write hashKey .null)) fun _ =>
      .try_ (fun b => b.conclude ctx.round .done) (.finish (.ok ()))

/-- Writes what the round leaves in the store, and concludes it with an event. -/
def conclude (ctx : Context) (e : Event) : Work σ :=
  let last : Work σ := .try_ (fun b => b.conclude ctx.round e) (.finish (.ok ()))
  if ctx.round = .validateTransaction ∧ e = .done then
    .act
      (fun b => b.withStore (b.environment.store.write hashKey (.string (hashOf ctx.period))))
      fun _ => last
  else if ctx.round = .actionTweet ∧ e = .done then
    .try_ (fun b =>
      (b.environment.store.append postsKey (.nat ctx.period)).map fun p => b.withStore p.2) last
  else last

/-- The work of a round that makes things up. -/
def behaviour (t : Table) : Behaviour σ := fun ctx =>
  let invented : Work σ :=
    .act (fun b => b.withMemory (pick (choices t ctx.round) b.environment.memory).2) fun b =>
      conclude ctx (pick (choices t ctx.round) b.environment.memory).1
  if ctx.round = .actionPreparation then
    .act id fun b =>
      match pendingHash? b.environment.store with
      | some hash => settle ctx hash
      | none => invented
  else invented

/-- Simulated work for every state of a table. -/
def registry (t : Table) : Registry σ := Registry.empty.registerAll t.states (behaviour t)

omit [RandomSource σ] in
theorem settle_ends (ctx : Context) (hash : String) : (settle ctx hash : Work σ).Ends :=
  .try_ (.act fun _ => .try_ (.finish _))

omit [RandomSource σ] in
theorem conclude_ends (ctx : Context) (e : Event) : (conclude ctx e : Work σ).Ends := by
  rw [conclude]
  split
  · exact .act fun _ => .try_ (.finish _)
  · split
    · exact .try_ (.try_ (.finish _))
    · exact .try_ (.finish _)

/-- Simulated work never waits forever. -/
theorem behaviour_ends (t : Table) (ctx : Context) : (behaviour t ctx : Work σ).Ends := by
  have invented :
      (Work.act (fun b => b.withMemory (pick (choices t ctx.round) b.environment.memory).2)
      fun b => conclude ctx (pick (choices t ctx.round) b.environment.memory).1 : Work σ).Ends :=
    .act fun _ => conclude_ends ctx _
  rw [behaviour]
  split
  · refine .act fun b => ?_
    split
    · exact settle_ends ctx _
    · exact invented
  · exact invented

theorem registry_ends (t : Table) : (registry t : Registry σ).Ends :=
  Registry.Ends.registerAll (behaviour_ends t) _ .empty

/-- Runs a replica with simulated work for a number of rounds. -/
def run (g : Engine) (steps : Nat) (source : σ) : Run σ Round :=
  (g.runFor (registry g.table) ⟨.empty, false, source⟩ steps).get
    (Engine.runFor_isSome (registry_ends g.table) _ _ _)

/-- The number of signals that a subscriber gets out of its notifications.  One that has missed some
stops at that. -/
def signalsSeen (c : Channel (Change Record)) (s : Subscription) : Nat :=
  if c.missed s = 0 then (c.due s).countP Change.limitExceeded else 0

end Simulation

/-- What a simulation shows. -/
structure Simulation where
  /-- A row for each of the latest transitions, oldest first. -/
  rows : List Row
  /-- The round the replica ended in. -/
  finalRound : Round
  /-- The number of periods completed. -/
  period : Nat
  /-- The number of retry signals seen. -/
  retrySignals : Nat
  /-- What was left in the store. -/
  store : Store

/-- Simulates a replica for a number of rounds; a subscriber from before the first counts its
signals. -/
def simulate {σ : Type} [RandomSource σ] (g : Engine) (steps : Nat) (source : σ) :
    Except Error Simulation := do
  let run := Simulation.run g steps source
  let _ ← run.result
  let seen := Simulation.signalsSeen run.engine.channel g.channel.subscribe
  return ⟨run.engine.history.records.map Report.recordRow, run.engine.current,
    run.engine.period, seen,
    run.environment.store⟩

end RoundWorkflow
