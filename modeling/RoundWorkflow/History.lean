import RoundWorkflow.Recent
import RoundWorkflow.Edge
import RoundWorkflow.Text.Decimal

/-!
# The history of a replica

Every transition that a replica applies is recorded with its step number, the period
it was applied in, and whether its event was injected because the round ran out of
its budget.  A history shows the latest records; step numbers go on counting however
many were dropped.
-/

namespace RoundWorkflow

/-- One applied transition. -/
structure Record where
  /-- The number of transitions before this one. -/
  step : Nat
  /-- The round that was left. -/
  source : Round
  /-- The event. -/
  event : Event
  /-- The round that was entered. -/
  target : Round
  /-- The period the transition was applied in. -/
  period : Nat
  /-- Whether the event was injected because the round ran out of its budget. -/
  timedOut : Bool
  deriving DecidableEq, Repr, Inhabited

namespace Record

/-- Whether the transition entered the round it left. -/
def isSelfLoop (r : Record) : Bool := r.source = r.target

/-- The edge that was taken. -/
def edge (r : Record) : Edge := ⟨r.source, r.event, r.target⟩

/-- The text of a record. -/
def text (r : Record) : String :=
  "#" ++ String.ofList (Text.numeral r.step) ++ " [period " ++
    String.ofList (Text.numeral r.period) ++ "] " ++
    r.edge.text ++ if r.timedOut then " (timeout)" else ""

end Record

/-- The number of records a history shows unless it is configured otherwise. -/
def defaultHistoryCapacity : Nat := 10000

/-- The latest records of a replica. -/
structure History where
  /-- The records. -/
  log : Recent Record

namespace History

/-- The number of records that room is made for in advance. -/
def reserved (capacity : Nat) : Nat := min (max capacity 1) defaultHistoryCapacity

/-- The history without records. -/
def empty (capacity : Nat) : History := ⟨.empty capacity⟩

/-- The number of transitions that were ever recorded. -/
def total (h : History) : Nat := h.log.total

/-- The record that the next transition gets. -/
def next (h : History) (e : Edge) (period : Nat) (timedOut : Bool) : Record :=
  ⟨h.total, e.source, e.event, e.target, period, timedOut⟩

/-- The history with one more transition. -/
def record (h : History) (e : Edge) (period : Nat) (timedOut : Bool) : History :=
  ⟨h.log.push (h.next e period timedOut)⟩

/-- The records shown, oldest first. -/
def records (h : History) : List Record := h.log.toList

/-- The record of a step, while it is shown. -/
def get? (h : History) (step : Nat) : Option Record := h.log.get? step

/-- The latest record. -/
def last? (h : History) : Option Record := h.log.last?

/-- The records shown of one period. -/
def forPeriod (h : History) (period : Nat) : List Record :=
  h.records.filter fun r => r.period = period

/-- The edges of the records shown. -/
def path (h : History) : List Edge := h.records.map Record.edge

/-- The number of records shown whose event was injected. -/
def timeoutCount (h : History) : Nat := h.records.countP Record.timedOut

end History

end RoundWorkflow
