import RoundWorkflow.Table

/-!
# Drawing a table

`Table.dot` is the round graph in the language of Graphviz.  A line for every round
comes first, its shape telling a start (double circle) from a final round (box) and
from the others (ellipse); a round that is both is drawn as a start.  Then comes a
line for every edge, by round and then by event.
-/

namespace RoundWorkflow.Table

/-- The shape of a round. -/
def shape (t : Table) (r : Round) : String :=
  if t.isStart r then "doublecircle" else if t.isFinal r then "box" else "ellipse"

/-- The line of a round. -/
def nodeLine (t : Table) (r : Round) : String :=
  "    \"" ++ r.name ++ "\" [shape=" ++ t.shape r ++ "];\n"

/-- The line of an edge. -/
def edgeLine (e : Edge) : String :=
  "    \"" ++ e.source.name ++ "\" -> \"" ++ e.target.name ++ "\" [label=\"" ++
    e.event.name ++ "\"];\n"

/-- Every edge, by round and then by event. -/
def orderedEdges (t : Table) : List Edge := t.index.edges

/-- The round graph in the language of Graphviz. -/
def dot (t : Table) : String :=
  "digraph lockstep \x7b\n    rankdir=LR;\n" ++
    String.join (t.states.map t.nodeLine) ++
    String.join (t.orderedEdges.map edgeLine) ++ "\x7d\n"

end RoundWorkflow.Table
