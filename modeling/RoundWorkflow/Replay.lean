import RoundWorkflow.Engine
import RoundWorkflow.Report

/-!
# Replaying events

A replay gives a list of events to a fresh replica, with no work and no time.  It stops
at the first event that the current round does not accept.
-/

namespace RoundWorkflow

/-- What a replay shows. -/
structure Replay where
  /-- A row for each of the latest transitions, oldest first. -/
  rows : List Row
  /-- The round the replica ended in. -/
  finalRound : Round
  /-- Why the replay stopped before the end of the events, if it did. -/
  violation : Option Error

/-- Replays events from a start round. -/
def replay (t : Table) (start : Option Round) (events : List Event) : Except Error Replay := do
  let g ← Engine.start t { EngineConfig.standard with startState := start } .standard
  let (result, g) := g.stepAll events
  let violation := match result with
    | .ok _ => none
    | .error fault => some fault
  return ⟨g.history.records.map Report.recordRow, g.current, violation⟩

end RoundWorkflow
