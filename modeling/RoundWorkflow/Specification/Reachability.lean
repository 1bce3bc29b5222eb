import RoundWorkflow.Specification

/-!
# Reachability

`Path edges a b` says that edges lead from `a` to `b` in any number of steps.

Which rounds a round leads to is found by a search.  Rounds wait in a queue.  In each turn the
first of them leaves it (`Search.turn`).  If it has been visited, nothing else happens.  If not,
it is visited now, and the targets of the edges that leave it join the end of the queue, except
those that have been visited.  The search is over when the queue is empty.

A round may wait in the queue several times, so the queue need not get shorter.  What gets smaller
in every turn is the work that is left: the rounds that wait, and the edges whose source has not
been visited (`Search.left_turn_lt`).
-/

namespace RoundWorkflow

/-- Edges of a list lead from one round to another in any number of steps. -/
inductive Path (edges : List Edge) (start : Round) : Round → Prop where
  /-- In no step. -/
  | refl : Path edges start start
  /-- In one more step. -/
  | step {e : Edge} : Path edges start e.source → e ∈ edges → Path edges start e.target

/-- A search for the rounds that edges lead to. -/
structure Search where
  /-- The rounds that have been visited. -/
  visited : EnumSet Round
  /-- The rounds that wait for their turn, some of them perhaps more than once. -/
  queue : List Round

namespace Search

/-- A search that begins at a round. -/
def start (r : Round) : Search := ⟨.empty, [r]⟩

/-- The targets of the edges that leave a round, except those that have been visited. -/
def ahead (s : Specification) (visited : EnumSet Round) (r : Round) : List Round :=
  ((s.outgoing r).map Edge.target).filter fun r' => r' ∉ visited

/-- The search after one more turn. -/
def turn (s : Specification) : Search → Search
  | ⟨visited, []⟩ => ⟨visited, []⟩
  | ⟨visited, r :: queue⟩ =>
    if r ∈ visited then ⟨visited, queue⟩
    else ⟨visited.insert r, queue ++ ahead s (visited.insert r) r⟩

/-- The work that is left: what waits, and the edges whose source has not been visited. -/
def left (s : Specification) (search : Search) : Nat :=
  search.queue.length + (s.edges.filter fun e => e.source ∉ search.visited).length

/-- To visit a round is to be done with the edges that leave it. -/
theorem length_unvisited_insert {s : Specification} {visited : EnumSet Round} {r : Round}
    (h : r ∉ visited) :
    (s.outgoing r).length + (s.edges.filter fun e => e.source ∉ visited.insert r).length =
      (s.edges.filter fun e => e.source ∉ visited).length := by
  have hleave : (s.edges.filter fun e => e.source ∉ visited).filter (fun e => e.source = r) =
      s.outgoing r := by
    rw [List.filter_filter, Specification.outgoing]
    refine List.filter_congr fun e _ => ?_
    by_cases hr : e.source = r <;> simp [hr, h]
  have hstay : (s.edges.filter fun e => e.source ∉ visited).filter
      (fun e => ¬decide (e.source = r) = true) =
      s.edges.filter fun e => e.source ∉ visited.insert r := by
    rw [List.filter_filter]
    exact List.filter_congr fun e _ => by simp
  rw [← hleave, ← hstay, ← List.countP_eq_length_filter, ← List.countP_eq_length_filter,
    ← List.length_eq_countP_add_countP]

/-- Every turn leaves less work. -/
theorem left_turn_lt {s : Specification} {search : Search} (h : search.queue ≠ []) :
    (turn s search).left s < search.left s := by
  obtain ⟨visited, _ | ⟨r, queue⟩⟩ := search
  · contradiction
  · rw [turn]
    split
    · simp [left]
    · rename_i hr
      have hvisit := length_unvisited_insert (s := s) hr
      have hahead : (ahead s (visited.insert r) r).length ≤ (s.outgoing r).length := by
        rw [← List.length_map Edge.target]
        exact List.length_filter_le _ _
      simp only [left, List.length_append, List.length_cons]
      omega

/-- The rounds that have been visited when the search is over. -/
def run (s : Specification) (search : Search) : EnumSet Round :=
  if search.queue = [] then search.visited else run s (turn s search)
termination_by search.left s
decreasing_by exact left_turn_lt ‹_›

end Search

/-- The rounds that a specification leads to from a round, itself included. -/
def Specification.reachableFrom (s : Specification) (r : Round) : EnumSet Round :=
  Search.run s (.start r)

end RoundWorkflow
