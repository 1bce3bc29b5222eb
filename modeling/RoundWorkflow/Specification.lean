import RoundWorkflow.Transition

/-!
# Specifications of a round graph

A specification is a round graph as data: the alphabet, the rounds, the rounds a
replica may start from, the one it starts from unless told otherwise, the rounds
where it may stop, and the edges.  It need not be sensible; that is for its
validation to find out.  Edges are a list, and not a map, so that two edges with
one key are both there to be reported.
-/

namespace RoundWorkflow

/-- A round graph as data. -/
structure Specification where
  /-- The events that edges may have. -/
  alphabet : EnumSet Event
  /-- The round a replica enters unless it is configured otherwise. -/
  defaultStart : Round
  /-- The rounds that may have no exit. -/
  finals : EnumSet Round
  /-- The rounds a replica may start from. -/
  starts : EnumSet Round
  /-- The rounds of the graph. -/
  states : EnumSet Round
  /-- The edges, in the order they were given in. -/
  edges : List Edge
  deriving DecidableEq, Inhabited

namespace Specification

/-- The canonical round graph. -/
def canonical : Specification where
  alphabet := .full
  defaultStart := Round.defaultStart
  finals := .empty
  starts := .ofList Round.starts
  states := .full
  edges := canonicalEdges

/-- The graph of a list of edges: its rounds and events are those that occur. -/
def ofEdges (defaultStart : Round) (starts : List Round) (edges : List Edge) : Specification where
  alphabet := .ofList (edges.map Edge.event)
  defaultStart := defaultStart
  finals := .empty
  starts := .ofList starts
  states := .ofList (defaultStart :: starts ++ edges.flatMap fun e => [e.source, e.target])
  edges := edges

/-- The edges that leave a round, in the order of the list. -/
def outgoing (s : Specification) (r : Round) : List Edge :=
  s.edges.filter fun e => e.source = r

end Specification

end RoundWorkflow
