import RoundWorkflow.Engine
import RoundWorkflow.Symbol

/-!
# The configuration of a replica

A configuration says how the engine is set up, how long rounds may take, how often
they may be retried, and what is logged.  It holds names as they were given; whether
they name rounds shows when the engine and its supervisor are made from it.
-/

namespace RoundWorkflow

/-- The set-up of the engine. -/
structure EngineSection where
  /-- The name of the round to start from. -/
  startState : Option String
  /-- The number of notifications held for a subscriber. -/
  notificationCapacity : UInt64
  /-- The number of records the history shows. -/
  historyCapacity : UInt64
  /-- The file of the table; the canonical one if there is none. -/
  specification : Option String
  deriving DecidableEq, Repr, Inhabited

/-- The set-up unless it is configured otherwise. -/
def EngineSection.standard : EngineSection :=
  ⟨none, 1024, UInt64.ofNat defaultHistoryCapacity, none⟩

/-- What is logged. -/
structure Logging where
  /-- The least level of a line that is logged. -/
  level : String
  /-- Whether a line is a JSON object. -/
  json : Bool
  deriving DecidableEq, Repr, Inhabited

/-- What is logged unless it is configured otherwise. -/
def Logging.standard : Logging := ⟨"info", false⟩

/-- The configuration of a replica. -/
structure Configuration where
  /-- The set-up of the engine. -/
  engine : EngineSection
  /-- The budgets of the rounds. -/
  timeouts : TimeoutConfig
  /-- The caps of retries. -/
  retry : RetryConfig
  /-- What is logged. -/
  logging : Logging
  deriving DecidableEq, Inhabited

namespace Configuration

/-- The configuration in which nothing is configured. -/
def standard : Configuration := ⟨.standard, .standard, .standard, .standard⟩

/-- The set-up of an engine; the start has to be the name of a round. -/
def engineConfig (c : Configuration) : Except Error EngineConfig := do
  let start ← match c.engine.startState with
    | none => pure none
    | some name => (Round.parse name).map some
  return ⟨start, c.engine.notificationCapacity, c.engine.historyCapacity⟩

/-- The supervisor of the configured budgets and caps. -/
def supervisor (c : Configuration) : Except Error Supervisor := do
  let s ← Supervisor.ofTimeouts c.timeouts
  s.withRetries c.retry

end Configuration

end RoundWorkflow
