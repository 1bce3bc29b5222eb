import RoundWorkflow.Round

/-!
# Edges of the round graph

An edge says that an event takes the workflow from one round to another.  Its key
is what a table looks up: the round it leaves and the event.  A key is written
`(Round, EVENT)`, and an edge `Round --EVENT--> Round`.
-/

namespace RoundWorkflow

/-- What an edge is looked up by: a round and an event. -/
structure Key where
  /-- The round the edge leaves. -/
  round : Round
  /-- The event that takes it. -/
  event : Event
  deriving DecidableEq, Repr, Inhabited

/-- An edge: an event takes the workflow from one round to another. -/
structure Edge where
  /-- The round the edge leaves. -/
  source : Round
  /-- The event that takes it. -/
  event : Event
  /-- The round the edge enters. -/
  target : Round
  deriving DecidableEq, Repr, Inhabited

/-- The text of a key. -/
def Key.text (k : Key) : String :=
  "(" ++ k.round.name ++ ", " ++ k.event.name ++ ")"

namespace Edge

/-- The key of an edge. -/
def key (e : Edge) : Key := ⟨e.source, e.event⟩

/-- Whether the edge enters the round it leaves. -/
def isSelfLoop (e : Edge) : Bool := e.source = e.target

/-- The text of an edge. -/
def text (e : Edge) : String :=
  e.source.name ++ " --" ++ e.event.name ++ "--> " ++ e.target.name

end Edge

end RoundWorkflow
