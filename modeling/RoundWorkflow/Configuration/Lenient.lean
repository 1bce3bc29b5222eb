import RoundWorkflow.Configuration
import RoundWorkflow.Json
import RoundWorkflow.Text.Number

/-!
# Lenient reading of settings

Settings come from files and from the environment, where a number may be written as
text and a truth value as a number.  So a setting is converted to the type it is needed
as, wherever there is one natural conversion.  No conversion makes anything of a missing
value, of a list or of a map.

A section is a map from the names of its fields to settings, or the list of the settings
in the order of the fields.  Unknown names are passed over.
-/

namespace RoundWorkflow.Lenient

/-! ## Values -/

/-- The words for yes and no that a setting may use. -/
def yesWords : List String := ["true", "on", "yes"]

/-- The words for no. -/
def noWords : List String := ["false", "off", "no"]

/-- A text with its ASCII capitals made small. -/
def folded (s : String) : String := String.ofList (s.toList.map Char.toLower)

/-- A number of 64 bits: a number, rounded and cut to the range when it is not whole, or a text. -/
def uint64? : Json → Option UInt64
  | .number (.integer i) => if 0 ≤ i ∧ i < UInt64.size then some (UInt64.ofNat i.toNat) else none
  | .number (.double d) => some (UInt64.ofNat (d.toNatClamped (UInt64.size - 1)))
  | .bool b => some (if b then 1 else 0)
  | .string s =>
    if yesWords.contains (folded s) then some 1
    else if noWords.contains (folded s) then some 0
    else
      let digits := match s.toList with
        | '+' :: ds => ds
        | ds => ds
      (Text.natural? digits).bind fun n => if n < UInt64.size then some (UInt64.ofNat n) else none
  | _ => none

/-- A number of 32 bits: one of 64 bits that is small enough. -/
def uint32? (j : Json) : Option UInt32 :=
  ((uint64? j).filter fun n => n.toNat < UInt32.size).map UInt64.toUInt32

/-- A truth value: a number is true unless it is zero. -/
def bool? : Json → Option Bool
  | .bool b => some b
  | .number (.integer i) => some (i ≠ 0)
  | .number (.double d) => some !d.isZero
  | .string s =>
    if folded s = "1" || yesWords.contains (folded s) then some true
    else if folded s = "0" || noWords.contains (folded s) then some false
    else none
  | _ => none

/-- A text: a number or a truth value is written out. -/
def string? : Json → Option String
  | .string s => some s
  | .bool b => some (if b then "true" else "false")
  | .number (.integer i) => some (String.ofList (Text.integerText i))
  | .number (.double d) => some (String.ofList d.plainText)
  | _ => none

/-- A value, or none where nothing is set. -/
def option? (convert : Json → Option α) : Json → Option (Option α)
  | .null => some none
  | j => (convert j).map some

/-- All entries converted, if each of them can be. -/
def convertEntries (convert : Json → Option α) : List (String × Json) → Option (List (String × α))
  | [] => some []
  | (k, j) :: rest =>
    (convert j).bind fun a => (convertEntries convert rest).map ((k, a) :: ·)

/-- A map. -/
def dict? (convert : Json → Option α) : Json → Option (Dict α)
  | .object members => (convertEntries convert members).map Dict.ofList
  | _ => none

/-! ## Sections -/

/-- The settings of the fields with these names. -/
def section? (names : List String) : Json → Option (Dict Json)
  | .object members => some (.ofList members)
  | .array items => some (.ofList (names.zip items))
  | _ => none

/-- A field of a section, or its default where it is not set. -/
def fieldOr (fields : Dict Json) (name : String) (convert : Json → Option α) (default : α) :
    Option α :=
  match fields.get? name with
  | some j => convert j
  | none => some default

/-- The set-up of the engine. -/
def engineSection? (j : Json) : Option EngineSection := do
  let fs ← section? ["start_state", "notification_capacity", "history_capacity", "specification"] j
  let c := EngineSection.standard
  return ⟨← fieldOr fs "start_state" (option? string?) c.startState,
    ← fieldOr fs "notification_capacity" uint64? c.notificationCapacity,
    ← fieldOr fs "history_capacity" uint64? c.historyCapacity,
    ← fieldOr fs "specification" (option? string?) c.specification⟩

/-- The budgets. -/
def timeouts? (j : Json) : Option TimeoutConfig := do
  let fs ← section? ["round_secs", "check_secs", "finalize_secs", "validate_secs", "reset_secs",
    "reset_and_pause_secs", "overrides"] j
  let c := TimeoutConfig.standard
  return ⟨← fieldOr fs "round_secs" uint64? c.roundSeconds,
    ← fieldOr fs "check_secs" uint64? c.checkSeconds,
    ← fieldOr fs "finalize_secs" uint64? c.finalizeSeconds,
    ← fieldOr fs "validate_secs" uint64? c.validateSeconds,
    ← fieldOr fs "reset_secs" uint64? c.resetSeconds,
    ← fieldOr fs "reset_and_pause_secs" uint64? c.resetAndPauseSeconds,
    ← fieldOr fs "overrides" (dict? uint64?) c.overrides⟩

/-- A retry policy. -/
def policy? (j : Json) : Option RetryPolicy := do
  let fs ← section? ["max_consecutive"] j
  return ⟨← fieldOr fs "max_consecutive" (option? uint32?) none⟩

/-- The retry policies. -/
def retry? (j : Json) : Option RetryConfig := do
  let fs ← section? ["default", "rounds"] j
  let c := RetryConfig.standard
  return ⟨← fieldOr fs "default" policy? c.default, ← fieldOr fs "rounds" (dict? policy?) c.rounds⟩

/-- What is logged. -/
def logging? (j : Json) : Option Logging := do
  let fs ← section? ["level", "json"] j
  let c := Logging.standard
  return ⟨← fieldOr fs "level" string? c.level, ← fieldOr fs "json" bool? c.json⟩

/-- A configuration. -/
def configuration? (j : Json) : Option Configuration := do
  let fs ← section? ["engine", "timeouts", "retry", "logging"] j
  let c := Configuration.standard
  return ⟨← fieldOr fs "engine" engineSection? c.engine,
    ← fieldOr fs "timeouts" timeouts? c.timeouts,
    ← fieldOr fs "retry" retry? c.retry, ← fieldOr fs "logging" logging? c.logging⟩

end RoundWorkflow.Lenient
