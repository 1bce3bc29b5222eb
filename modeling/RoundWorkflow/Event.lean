import RoundWorkflow.Enumeration

/-!
# Events

An event is the outcome of one round.  The alphabet is closed.  Each event
belongs to a class (`EventClass`); the class is for the reader of a report, and
routing never looks at it.
-/

namespace RoundWorkflow

/-- The outcome of one round, in declaration order. -/
inductive Event where
  /-- The transaction has to be looked up in the history. -/
  | checkHistory
  /-- A message arrived late. -/
  | checkLateArrivingMessage
  /-- A check ran out of its budget. -/
  | checkTimeout
  /-- The round succeeded. -/
  | done
  /-- The round failed inside. -/
  | error
  /-- The transaction could not be submitted. -/
  | finalizationFailed
  /-- The submission ran out of its budget. -/
  | finalizeTimeout
  /-- A message could not be decoded. -/
  | incorrectSerialization
  /-- The submission cost more than there was. -/
  | insufficientFunds
  /-- The check came out negative. -/
  | negative
  /-- The check found nothing. -/
  | absent
  /-- There are no funds. -/
  | noFunds
  /-- The replicas did not agree. -/
  | noMajority
  /-- The pause ran out of its budget. -/
  | resetAndPauseTimeout
  /-- The reset ran out of its budget. -/
  | resetTimeout
  /-- An ordinary round ran out of its budget. -/
  | roundTimeout
  /-- A transaction has to be settled first. -/
  | settle
  /-- A message did not fit. -/
  | suspiciousActivity
  /-- The validation ran out of its budget. -/
  | validateTimeout
  /-- Nothing to do in this period. -/
  | wait
  deriving DecidableEq, Repr, Inhabited

/-- The family an event belongs to. -/
inductive EventClass where
  /-- The round reached agreement on a result. -/
  | success
  /-- The replicas did not agree within the round. -/
  | disagreement
  /-- The round ran out of its budget. -/
  | timeout
  /-- A failure of the domain, for which the table has a way on. -/
  | domainFailure
  /-- A failure inside the round. -/
  | error
  /-- A choice of branch that is neither success nor failure. -/
  | routing
  deriving DecidableEq, Repr, Inhabited

namespace Event

/-- The alphabet, in declaration order. -/
def all : List Event :=
  [.checkHistory, .checkLateArrivingMessage, .checkTimeout, .done, .error,
    .finalizationFailed, .finalizeTimeout, .incorrectSerialization, .insufficientFunds,
    .negative, .absent, .noFunds, .noMajority, .resetAndPauseTimeout, .resetTimeout,
    .roundTimeout, .settle, .suspiciousActivity, .validateTimeout, .wait]

/-- The event that comes first in the alphabet. -/
def first : Event := all.head (by decide)

/-- The event that comes last in the alphabet. -/
def last : Event := all.getLast (by decide)

/-- The symbol of an event. -/
def name : Event → String
  | .checkHistory => "CHECK_HISTORY"
  | .checkLateArrivingMessage => "CHECK_LATE_ARRIVING_MESSAGE"
  | .checkTimeout => "CHECK_TIMEOUT"
  | .done => "DONE"
  | .error => "ERROR"
  | .finalizationFailed => "FINALIZATION_FAILED"
  | .finalizeTimeout => "FINALIZE_TIMEOUT"
  | .incorrectSerialization => "INCORRECT_SERIALIZATION"
  | .insufficientFunds => "INSUFFICIENT_FUNDS"
  | .negative => "NEGATIVE"
  | .absent => "NONE"
  | .noFunds => "NO_FUNDS"
  | .noMajority => "NO_MAJORITY"
  | .resetAndPauseTimeout => "RESET_AND_PAUSE_TIMEOUT"
  | .resetTimeout => "RESET_TIMEOUT"
  | .roundTimeout => "ROUND_TIMEOUT"
  | .settle => "SETTLE"
  | .suspiciousActivity => "SUSPICIOUS_ACTIVITY"
  | .validateTimeout => "VALIDATE_TIMEOUT"
  | .wait => "WAIT"

instance : Enumeration Event where
  all := all
  mem_all e := by cases e <;> decide
  name := name

theorem nodup_all : (Enumeration.all : List Event).Nodup := by decide

instance : ToString Event := ⟨name⟩

/-- The family an event belongs to. -/
def eventClass : Event → EventClass
  | .checkHistory => .routing
  | .checkLateArrivingMessage => .routing
  | .checkTimeout => .timeout
  | .done => .success
  | .error => .error
  | .finalizationFailed => .domainFailure
  | .finalizeTimeout => .timeout
  | .incorrectSerialization => .domainFailure
  | .insufficientFunds => .domainFailure
  | .negative => .domainFailure
  | .absent => .routing
  | .noFunds => .domainFailure
  | .noMajority => .disagreement
  | .resetAndPauseTimeout => .timeout
  | .resetTimeout => .timeout
  | .roundTimeout => .timeout
  | .settle => .routing
  | .suspiciousActivity => .domainFailure
  | .validateTimeout => .timeout
  | .wait => .routing

/-- Whether the event stands for a round having run out of its budget. -/
def isTimeout (e : Event) : Bool := e.eventClass = .timeout

end Event

namespace EventClass

/-- Every class, in declaration order. -/
def all : List EventClass := [.success, .disagreement, .timeout, .domainFailure, .error, .routing]

/-- The name of a class. -/
def name : EventClass → String
  | .success => "success"
  | .disagreement => "disagreement"
  | .timeout => "timeout"
  | .domainFailure => "domain_failure"
  | .error => "error"
  | .routing => "routing"

instance : Enumeration EventClass where
  all := all
  mem_all c := by cases c <;> decide
  name := name

end EventClass

end RoundWorkflow
