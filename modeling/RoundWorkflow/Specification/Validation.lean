import RoundWorkflow.Specification.Reachability
import RoundWorkflow.Error

/-!
# Validation

A specification is sensible when none of its checks finds a fault.  The checks
come in a fixed order, and the first fault is the one reported (`fault?`): there is
a state; the default start is a start; starts and then finals are states; every
edge in turn has its ends among the states, its event in the alphabet and a key of
its own; every state that is not final has an exit; a start leads to every state.

A sensible specification may still have findings that are worth a word
(`warnings`): events that no edge has, and rounds whose own timeout leads nowhere.
-/

namespace RoundWorkflow

/-- A finding that does not make a specification wrong. -/
inductive Warning where
  /-- No edge has the event. -/
  | unusedEvent (event : Event)
  /-- The round has no edge for the event that stands for its timeout. -/
  | unroutedTimeout (round : Round) (event : Event)
  deriving DecidableEq, Repr, Inhabited

/-- The wording of a warning. -/
def Warning.text : Warning → String
  | .unusedEvent e => "event " ++ e.name ++ " is never referenced by a transition"
  | .unroutedTimeout r e => r.name ++ " has no transition for its timeout " ++ e.name

namespace Specification

/-! ## The checks -/

/-- There is a state. -/
def statesFault? (s : Specification) : Option Error :=
  if s.states.isEmpty then some (.invalidSpecification .noStates) else none

/-- The default start is a start. -/
def defaultStartFault? (s : Specification) : Option Error :=
  if s.defaultStart ∈ s.starts then none
  else some (.invalidSpecification (.defaultStartNotListed s.defaultStart))

/-- Starts and then finals are states. -/
def listingFault? (s : Specification) : Option Error :=
  ((s.starts.toList ++ s.finals.toList).find? fun r => r ∉ s.states).map fun r =>
    .invalidSpecification (.notAState r)

/-- What is wrong with an edge that comes after others. -/
def edgeFault? (s : Specification) (before : List Edge) (e : Edge) : Option Error :=
  if ¬(e.source ∈ s.states ∧ e.target ∈ s.states) then
    some (.invalidSpecification (.edgeLeavesStates e))
  else if e.event ∉ s.alphabet then some (.invalidSpecification (.edgeEventUnlisted e))
  else
    (before.find? fun f => f.key = e.key).map fun f =>
      .duplicateTransition e.source e.event f.target e.target

/-- The first edge with a fault, of edges that come after others. -/
def edgesFault? (s : Specification) (before : List Edge) : List Edge → Option Error
  | [] => none
  | e :: rest =>
    match s.edgeFault? before e with
    | some fault => some fault
    | none => s.edgesFault? (before ++ [e]) rest

/-- Every state that is not final has an exit. -/
def exitFault? (s : Specification) : Option Error :=
  (s.states.toList.find? fun r => r ∉ s.finals && !s.edges.any fun e => e.source = r).map .deadEnd

/-- A start leads to every state. -/
def reachFault? (s : Specification) : Option Error :=
  let reached := EnumSet.ofList (s.starts.toList.flatMap fun a => (s.reachableFrom a).toList)
  (s.states.toList.find? fun r => r ∉ reached).map .unreachable

/-- The first fault. -/
def fault? (s : Specification) : Option Error :=
  s.statesFault? <|> s.defaultStartFault? <|> s.listingFault? <|> s.edgesFault? [] s.edges <|>
    s.exitFault? <|> s.reachFault?

/-! ## Findings -/

/-- The events of the alphabet that no edge has. -/
def unusedEvents (s : Specification) : List Event :=
  s.alphabet.toList.filter fun e => !s.edges.any fun edge => edge.event = e

/-- Whether an edge has this key. -/
def hasKey (s : Specification) (k : Key) : Bool := s.edges.any fun e => e.key = k

/-- The finding that the timeout of a round leads nowhere, if it leads nowhere. -/
def unroutedTimeout? (s : Specification) (r : Round) : Option Warning :=
  match r.timeoutEvent with
  | some e => if s.hasKey ⟨r, e⟩ then none else some (.unroutedTimeout r e)
  | none => none

/-- Unused events in the order of the alphabet, then unrouted timeouts in the order of the
rounds. -/
def warnings (s : Specification) : List Warning :=
  s.unusedEvents.map .unusedEvent ++ s.states.toList.filterMap s.unroutedTimeout?

/-- The findings of a sensible specification, or the first fault. -/
def validate (s : Specification) : Except Error (List Warning) :=
  match s.fault? with
  | some fault => .error fault
  | none => .ok s.warnings

end Specification

end RoundWorkflow
