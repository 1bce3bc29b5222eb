import RoundWorkflow.Specification.Validation
import RoundWorkflow.Table.Index

/-!
# Transition tables

A table is a sensible specification, frozen: it can only be made by validation
(`Table.load`), and every replica looks its next round up in it.  The edges are looked
up in an index by their keys, which has room for one edge of a key.  Because the keys
of a sensible specification are distinct, it has them all.
-/

namespace RoundWorkflow

/-- A specification that passed validation. -/
structure Table where
  /-- The specification. -/
  specification : Specification
  /-- The findings of its validation. -/
  warnings : List Warning
  /-- Validation found no fault. -/
  valid : specification.validate = .ok warnings
  /-- The edges by their keys. -/
  index : EdgeIndex := .ofList specification.edges
  /-- The index is made from the edges of the specification. -/
  index_eq : index = .ofList specification.edges := by rfl

namespace Table

/-- The table of a specification, if it is sensible. -/
def load (s : Specification) : Except Error Table :=
  match h : s.validate with
  | .ok warnings => .ok { specification := s, warnings := warnings, valid := h }
  | .error fault => .error fault

/-- The target of the edge with a key. -/
def target? (t : Table) (k : Key) : Option Round := t.index.get? k

/-- The round an event leads to; an event without an edge violates the protocol. -/
def next (t : Table) (r : Round) (e : Event) : Except Error Round :=
  match t.target? ⟨r, e⟩ with
  | some r' => .ok r'
  | none => .error (.protocolViolation r e)

/-- The events a round accepts, in the order of the alphabet. -/
def accepted (t : Table) (r : Round) : List Event :=
  (t.index.between ⟨r, .first⟩ ⟨r, .last⟩).map Edge.event

/-- The edges that leave a round, in the order of their events. -/
def outgoing (t : Table) (r : Round) : List Edge :=
  (t.accepted r).filterMap fun e => (t.target? ⟨r, e⟩).map fun r' => ⟨r, e, r'⟩

/-- Whether a replica may start from a round. -/
def isStart (t : Table) (r : Round) : Bool := r ∈ t.specification.starts

/-- Whether a round may have no exit. -/
def isFinal (t : Table) (r : Round) : Bool := r ∈ t.specification.finals

/-- The round a replica enters unless it is configured otherwise. -/
def defaultStart (t : Table) : Round := t.specification.defaultStart

/-- The rounds of the table, in the order of their names. -/
def states (t : Table) : List Round := t.specification.states.toList

/-- The number of edges. -/
def edgeCount (t : Table) : Nat := t.index.size

end Table

end RoundWorkflow
