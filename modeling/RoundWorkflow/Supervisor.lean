import RoundWorkflow.Timeout
import RoundWorkflow.Retry

/-!
# Supervision

A supervisor knows the budget and the retry policy of every round.  A round begins
with a deadline, one budget from now, and the deadline carries the round's own timeout
event, because different rounds recover in different ways.  A round without a budget
has no deadline, and neither has one whose budget reaches past the end of the clock.

Times are whole milliseconds of a clock that starts at zero, and so are budgets.  A budget that is
finer than a millisecond is not among them.
-/

namespace RoundWorkflow

/-- The last second of the clock. -/
def clockEnd : Nat := Nat.pow 2 63 - 1

/-- The budget and the retry policy of every round. -/
structure Supervisor where
  /-- The budgets, in milliseconds. -/
  budget : Round → Option Nat
  /-- The retry policies. -/
  policy : Round → RetryPolicy

/-- The moment at which a round that runs is timed out. -/
structure Deadline where
  /-- The round. -/
  round : Round
  /-- The event that stands for the round having run out of its budget. -/
  event : Event
  /-- The time. -/
  time : Nat
  deriving DecidableEq, Repr, Inhabited

/-- Whether the deadline has passed. -/
def Deadline.isExpired (d : Deadline) (now : Nat) : Bool := d.time ≤ now

/-- The time that is left. -/
def Deadline.remaining (d : Deadline) (now : Nat) : Nat := d.time - now

namespace Supervisor

/-- The shared budgets and no caps. -/
def ofClasses (c : TimeoutConfig) : Supervisor where
  budget r := (c.classSeconds r).map fun s => 1000 * s.toNat
  policy _ := ⟨none⟩

/-- The supervisor of the standard budgets. -/
def standard : Supervisor := ofClasses .standard

/-- With a budget of whole milliseconds for a round, unless the round has no timeout event. -/
def withBudget (s : Supervisor) (r : Round) (milliseconds : Nat) : Supervisor :=
  if r.timeoutEvent.isSome then
    { s with budget := fun r' => if r' = r then some milliseconds else s.budget r' }
  else s

/-- The fault of the first round whose budget is above the limit. -/
def budgetFault? (s : Supervisor) : Option Error :=
  Round.all.findSome? fun r =>
    (s.budget r).bind fun b =>
      if 1000 * maxBudgetSeconds < b then some (.configuration (.budgetTooLarge r (b / 1000)))
      else none

/-- The supervisor of configured budgets. -/
def ofTimeouts (c : TimeoutConfig) : Except Error Supervisor := do
  let overrides ← c.resolvedOverrides
  let s := overrides.effective.foldl (fun s o => s.withBudget o.1 (1000 * o.2.toNat)) (ofClasses c)
  match s.budgetFault? with
  | some fault => throw fault
  | none => return s

/-- With configured retry policies. -/
def withRetries (s : Supervisor) (c : RetryConfig) : Except Error Supervisor := do
  let policy ← c.resolve
  return { s with policy := policy }

/-- The deadline of a round that begins now. -/
def deadline? (s : Supervisor) (r : Round) (now : Nat) : Option Deadline :=
  match r.timeoutEvent, s.budget r with
  | some e, some b => if (now + b) / 1000 ≤ clockEnd then some ⟨r, e, now + b⟩ else none
  | _, _ => none

end Supervisor

end RoundWorkflow
