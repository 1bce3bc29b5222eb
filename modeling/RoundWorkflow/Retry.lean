import RoundWorkflow.RoundSettings
import RoundWorkflow.Dict

/-!
# Retries

A round that is entered again by its own edge is a retry.  A *streak* is a run of
retries of one round, counted up to the greatest number of 32 bits.  A policy may cap
streaks; the transition that first goes past the cap gives a signal, once a streak.
The signal is for the operator: where the workflow goes does not depend on it.
-/

namespace RoundWorkflow

/-- How many retries of a round in a row are worth no signal. -/
structure RetryPolicy where
  /-- The cap, if there is one. -/
  maxConsecutive : Option UInt32
  deriving DecidableEq, Repr, Inhabited

/-- Whether a number of retries in a row is past the cap. -/
def RetryPolicy.exceededBy (p : RetryPolicy) (count : UInt32) : Bool :=
  match p.maxConsecutive with
  | some limit => limit < count
  | none => false

/-- The policies of all rounds. -/
structure RetryConfig where
  /-- The policy of the rounds that have none of their own. -/
  default : RetryPolicy
  /-- Policies of single rounds, by name. -/
  rounds : Dict RetryPolicy
  deriving DecidableEq, Inhabited

namespace RetryConfig

/-- No caps. -/
def standard : RetryConfig := ⟨⟨none⟩, ∅⟩

/-- With another policy for the rounds that have none of their own. -/
def withDefault (c : RetryConfig) (p : RetryPolicy) : RetryConfig := { c with default := p }

/-- With a policy for a round. -/
def withRound (c : RetryConfig) (r : Round) (p : RetryPolicy) : RetryConfig :=
  { c with rounds := c.rounds.insert r.name p }

/-- The policy of every round. -/
def resolve (c : RetryConfig) : Except Error (Round → RetryPolicy) := do
  let settings ← RoundSettings.ofEntries c.rounds.entries
  return fun r => (settings.get? r).getD c.default

end RetryConfig

/-- The run of retries that the latest transitions are part of. -/
structure Streak where
  /-- The round that is retried. -/
  round : Option Round
  /-- The number of retries in a row, the greatest number of 32 bits if there are more. -/
  consecutive : UInt32
  /-- Whether the signal was given. -/
  signalled : Bool
  deriving DecidableEq, Repr, Inhabited

namespace Streak

/-- No retries. -/
def fresh : Streak := ⟨none, 0, false⟩

/-- The next number of 32 bits, or the greatest again. -/
def countOn (n : UInt32) : UInt32 := if n.toNat + 1 < UInt32.size then n + 1 else n

/-- The streak of a round that a retry of it goes on with. -/
def of (s : Streak) (r : Round) : Streak :=
  if s.round = some r then s else ⟨some r, 0, false⟩

/-- The streak after a transition under a policy, and whether the transition gives the signal. -/
def record (s : Streak) (source target : Round) (policy : RetryPolicy) : Streak × Bool :=
  if source ≠ target then (fresh, false)
  else
    let s := s.of source
    let count := countOn s.consecutive
    let signal := !s.signalled && policy.exceededBy count
    ({ s with consecutive := count, signalled := s.signalled || signal }, signal)

end Streak

end RoundWorkflow
