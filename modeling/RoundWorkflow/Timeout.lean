import RoundWorkflow.RoundSettings
import RoundWorkflow.Dict

/-!
# Budgets

Rounds with the same timeout event share a budget, in seconds.  A configuration may
override it for single rounds.  A round without a timeout event has no budget, and an
override does not give it one.
-/

namespace RoundWorkflow

/-- The budgets of the rounds, in seconds. -/
structure TimeoutConfig where
  /-- The budget of ordinary rounds. -/
  roundSeconds : UInt64
  /-- The budget of the checks of history and late messages. -/
  checkSeconds : UInt64
  /-- The budget of the submission. -/
  finalizeSeconds : UInt64
  /-- The budget of the validation. -/
  validateSeconds : UInt64
  /-- The budget of the reset. -/
  resetSeconds : UInt64
  /-- The budget of the pause. -/
  resetAndPauseSeconds : UInt64
  /-- Budgets of single rounds, by name. -/
  overrides : Dict UInt64
  deriving DecidableEq, Inhabited

namespace TimeoutConfig

/-- The budgets unless they are configured otherwise. -/
def standard : TimeoutConfig := ⟨30, 1205, 60, 1205, 30, 30, ∅⟩

/-- With a budget for a round. -/
def withOverride (c : TimeoutConfig) (r : Round) (seconds : UInt64) : TimeoutConfig :=
  { c with overrides := c.overrides.insert r.name seconds }

/-- The budget that rounds with this timeout event share. -/
def secondsOf (c : TimeoutConfig) : Event → UInt64
  | .checkTimeout => c.checkSeconds
  | .finalizeTimeout => c.finalizeSeconds
  | .validateTimeout => c.validateSeconds
  | .resetTimeout => c.resetSeconds
  | .resetAndPauseTimeout => c.resetAndPauseSeconds
  | _ => c.roundSeconds

/-- The budget that a round shares, overrides left aside. -/
def classSeconds (c : TimeoutConfig) (r : Round) : Option UInt64 := r.timeoutEvent.map c.secondsOf

/-- The overrides as settings of rounds. -/
def resolvedOverrides (c : TimeoutConfig) : Except Error (RoundSettings UInt64) :=
  RoundSettings.ofEntries c.overrides.entries

/-- The budget of a round. -/
def budgetSeconds (c : TimeoutConfig) (r : Round) : Except Error (Option UInt64) :=
  match r.timeoutEvent with
  | none => .ok none
  | some _ => do
    let overrides ← c.resolvedOverrides
    return overrides.get? r <|> c.classSeconds r

end TimeoutConfig

end RoundWorkflow
