import RoundWorkflow.Edge
import RoundWorkflow.Json.Mismatch
import RoundWorkflow.Yaml

/-!
# Errors

An `Error` is the cause of a failure, not its wording; `Error.message` is the
wording.  Some errors end the work of a replica (`Error.isFatal`): after one of
them it stands still at its last valid round.
-/

namespace RoundWorkflow

/-- What is wrong in the text of a specification document. -/
inductive ReadingFault where
  /-- The text is no document of the format. -/
  | malformed
  /-- The text is no YAML. -/
  | notYaml (fault : Yaml.Fault)
  /-- A value has the wrong kind, or is a name outside a closed list. -/
  | mismatch (mismatch : Json.Mismatch)
  /-- A key names an unknown round. -/
  | unknownRound (text : String)
  /-- A key names an unknown event. -/
  | unknownEvent (text : String)
  /-- A key has no parentheses or no comma. -/
  | malformedKey (text : String)
  /-- A field that is required is not there. -/
  | missingField (name : String)
  /-- A field is there twice. -/
  | duplicateField (name : String)
  /-- There is more than one document in the text. -/
  | severalDocuments
  deriving DecidableEq, Repr, Inhabited

/-- Why a specification document cannot be read. -/
structure Problem where
  /-- What is wrong. -/
  fault : ReadingFault
  /-- Whether the report gives a place in the text. -/
  located : Bool
  deriving DecidableEq, Repr, Inhabited

/-- The wording of a fault. -/
def ReadingFault.message : ReadingFault → String
  | .malformed => "malformed document"
  | .notYaml f => f.message
  | .mismatch m => m.message
  | .unknownRound text => "Unknown round: " ++ text
  | .unknownEvent text => "Unknown event: " ++ text
  | .malformedKey text => "Malformed transition key: " ++ text
  | .missingField name => "missing field `" ++ name ++ "`"
  | .duplicateField name => "duplicate field `" ++ name ++ "`"
  | .severalDocuments =>
    "deserializing from YAML containing more than one document is not supported"

/-- What is wrong with a specification that no round or pair of rounds alone is to blame for. -/
inductive Flaw where
  /-- No round is declared. -/
  | noStates
  /-- The default start is not among the start rounds. -/
  | defaultStartNotListed (round : Round)
  /-- A start or final round is not declared. -/
  | notAState (round : Round)
  /-- An edge has an end that is not declared. -/
  | edgeLeavesStates (edge : Edge)
  /-- An edge has an event outside the alphabet. -/
  | edgeEventUnlisted (edge : Edge)
  /-- The document cannot be read. -/
  | unreadable (problem : Problem)
  deriving DecidableEq, Repr, Inhabited

/-- The wording of a flaw. -/
def Flaw.message : Flaw → String
  | .noStates => "specification must declare at least one state"
  | .defaultStartNotListed r => "default start state " ++ r.name ++ " is not listed in start_states"
  | .notAState r => r.name ++ " is not listed in states"
  | .edgeLeavesStates e => "edge " ++ e.text ++ " references a round not listed in states"
  | .edgeEventUnlisted e =>
    "edge " ++ e.text ++ " uses " ++ e.event.name ++ " which is not in alphabet_in"
  | .unreadable p => p.fault.message

/-- Why an operation on the store fails. -/
inductive StoreFault where
  /-- The value that was to be appended to is no list; `kind` says what it is. -/
  | notAList (key kind : String)
  /-- The value has not the type it was read as. -/
  | mistyped (key : String) (mismatch : Json.Mismatch)
  /-- The value that was to be stored cannot be encoded. -/
  | unencodable (key problem : String)
  /-- A fault that the work of a round reports in its own words. -/
  | reported (text : String)
  deriving DecidableEq, Repr, Inhabited

/-- The wording of a fault of the store. -/
def StoreFault.message : StoreFault → String
  | .notAList key kind => key ++ " holds " ++ kind ++ " and cannot be appended to"
  | .mistyped key m => key ++ ": " ++ m.message
  | .unencodable key problem => key ++ ": " ++ problem
  | .reported text => text

/-- The longest budget a configuration may give a round, in seconds: one year. -/
def maxBudgetSeconds : Nat := 365 * 24 * 3600

/-- Why a configuration cannot be used. -/
inductive ConfigurationFault where
  /-- A setting is for a round that does not exist. -/
  | unknownRoundName (text : String)
  /-- A round has a budget above the limit. -/
  | budgetTooLarge (round : Round) (seconds : Nat)
  deriving DecidableEq, Repr, Inhabited

/-- The wording of a fault of the configuration. -/
def ConfigurationFault.message : ConfigurationFault → String
  | .unknownRoundName text => "unknown round in configuration: " ++ text
  | .budgetTooLarge r seconds =>
    "timeout budget for " ++ r.name ++ " is " ++ toString seconds ++ "s, above the " ++
      toString maxBudgetSeconds ++ "s limit"

/-- The cause of a failure. -/
inductive Error where
  /-- The round has no edge for the event. -/
  | protocolViolation (round : Round) (event : Event)
  /-- The replica stands still at a round. -/
  | frozen (round : Round)
  | unknownRound (text : String)
  | unknownEvent (text : String)
  | malformedKey (text : String)
  /-- Two edges have one key and enter these rounds. -/
  | duplicateTransition (round : Round) (event : Event) (first second : Round)
  /-- A round that is not final has no edge. -/
  | deadEnd (round : Round)
  /-- A round that no start leads to. -/
  | unreachable (round : Round)
  /-- The configured start is not a start round of the table. -/
  | notAStart (round : Round)
  | invalidSpecification (flaw : Flaw)
  | missingBehaviour (round : Round)
  /-- The round has an outcome already. -/
  | alreadyConcluded (round : Round)
  /-- The work of the round ended without an outcome. -/
  | noOutcome (round : Round)
  /-- The work of the round failed. -/
  | behaviourFailed (round : Round) (cause : Error)
  | store (fault : StoreFault)
  | configuration (fault : ConfigurationFault)
  deriving DecidableEq, Repr, Inhabited

namespace Error

/-- The wording of an error. -/
def message : Error → String
  | .protocolViolation r e => "Protocol violation: " ++ e.name ++ " is not accepted by " ++ r.name
  | .frozen r => "Replica frozen at " ++ r.name ++ " after a fatal error"
  | .unknownRound text => "Unknown round: " ++ text
  | .unknownEvent text => "Unknown event: " ++ text
  | .malformedKey text => "Malformed transition key: " ++ text
  | .duplicateTransition r e first second =>
    "Duplicate transition for (" ++ r.name ++ ", " ++ e.name ++ "): " ++ first.name ++
      " and " ++ second.name
  | .deadEnd r => "Round has no outgoing transition: " ++ r.name
  | .unreachable r => "Round is unreachable from every start state: " ++ r.name
  | .notAStart r => "Not a start state: " ++ r.name
  | .invalidSpecification flaw => "Invalid specification: " ++ flaw.message
  | .missingBehaviour r => "No behaviour registered for round: " ++ r.name
  | .alreadyConcluded r => "Round already concluded: " ++ r.name
  | .noOutcome r => "Round finished without concluding an event: " ++ r.name
  | .behaviourFailed r cause => "Behaviour for " ++ r.name ++ " failed: " ++ cause.message
  | .store fault => "Synchronized database error: " ++ fault.message
  | .configuration fault => "Invalid configuration: " ++ fault.message

/-- Whether the error ends the work of a replica. -/
def isFatal : Error → Bool
  | .protocolViolation .. | .frozen .. | .missingBehaviour .. | .noOutcome ..
  | .behaviourFailed .. => true
  | _ => false

end Error

end RoundWorkflow
