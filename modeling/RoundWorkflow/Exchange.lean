import RoundWorkflow.Configuration
import RoundWorkflow.Json.Fields
import RoundWorkflow.Moment
import RoundWorkflow.Specification.Document
import RoundWorkflow.Specification.Validation

/-!
# Records as JSON

Configurations, notifications and other records are exchanged as JSON.  `Exchange`
gives a type its JSON form and the reader of it, which takes more forms than the writer
gives: fields may come in any order, unknown ones are passed over, fields with a
default may be left out, and a record may be the list of its fields.
-/

namespace RoundWorkflow

/-- A type with a JSON form. -/
class Exchange (α : Type) where
  /-- The JSON form of a value. -/
  encode : α → Json
  /-- The value of a JSON form. -/
  decode? : Json → Option α

namespace Exchange

open Json (Fields)

/-! ## Names -/

instance {α : Type} [DecidableEq α] [Enumeration α] : Exchange α where
  encode a := .string (Enumeration.name a)
  decode? := Json.named?

instance : Exchange Edge where
  encode e :=
    .object [("from", encode e.source), ("event", encode e.event), ("to", encode e.target)]
  decode? j := do
    let fs ← Json.fields? ["from", "event", "to"] j
    return ⟨← fs.required "from" decode?, ← fs.required "event" decode?, ← fs.required "to" decode?⟩

instance : Exchange Key where
  encode k := .string k.text
  decode? j := (Json.string? j).bind fun s => (Key.parse s).toOption

instance : Exchange Specification where
  encode := Specification.toJson
  decode? j := (Specification.readValue .json j).toOption

instance : Exchange Warning where
  encode
    | .unusedEvent e => .object [("UnusedEvent", encode e)]
    | .unroutedTimeout r e =>
      .object [("UnroutedTimeout", .object [("round", encode r), ("event", encode e)])]
  decode?
    | .object [("UnusedEvent", j)] => (decode? j).map .unusedEvent
    | .object [("UnroutedTimeout", j)] => do
      let fs ← Json.fields? ["round", "event"] j
      return .unroutedTimeout (← fs.required "round" decode?) (← fs.required "event" decode?)
    | _ => none

/-! ## Numbers and texts -/

/-- A number of 64 bits. -/
def ofUInt64 (n : UInt64) : Json := .nat n.toNat

/-- A number of 32 bits. -/
def ofUInt32 (n : UInt32) : Json := .nat n.toNat

instance : Exchange Moment where
  encode m := .string m.text
  decode? j := (Json.string? j).bind Moment.ofText?

/-! ## Configurations -/

instance : Exchange TimeoutConfig where
  encode c :=
    .object
      [("round_secs", ofUInt64 c.roundSeconds), ("check_secs", ofUInt64 c.checkSeconds),
        ("finalize_secs", ofUInt64 c.finalizeSeconds),
        ("validate_secs", ofUInt64 c.validateSeconds),
        ("reset_secs", ofUInt64 c.resetSeconds),
        ("reset_and_pause_secs", ofUInt64 c.resetAndPauseSeconds),
        ("overrides", .ofDict ofUInt64 c.overrides)]
  decode? j := do
    let fs ← Json.fields? ["round_secs", "check_secs", "finalize_secs",
      "validate_secs", "reset_secs",
      "reset_and_pause_secs", "overrides"] j
    let c := TimeoutConfig.standard
    return ⟨← fs.withDefault "round_secs" Json.uint64? c.roundSeconds,
      ← fs.withDefault "check_secs" Json.uint64? c.checkSeconds,
      ← fs.withDefault "finalize_secs" Json.uint64? c.finalizeSeconds,
      ← fs.withDefault "validate_secs" Json.uint64? c.validateSeconds,
      ← fs.withDefault "reset_secs" Json.uint64? c.resetSeconds,
      ← fs.withDefault "reset_and_pause_secs" Json.uint64? c.resetAndPauseSeconds,
      ← fs.withDefault "overrides" (Json.dict? Json.uint64?) c.overrides⟩

instance : Exchange RetryPolicy where
  encode p := .object [("max_consecutive", .ofOption ofUInt32 p.maxConsecutive)]
  decode? j := do
    let fs ← Json.fields? ["max_consecutive"] j
    return ⟨← fs.withDefault "max_consecutive" (Json.option? Json.uint32?) none⟩

instance : Exchange RetryConfig where
  encode c := .object [("default", encode c.default), ("rounds", .ofDict encode c.rounds)]
  decode? j := do
    let fs ← Json.fields? ["default", "rounds"] j
    return ⟨← fs.withDefault "default" decode? ⟨none⟩,
      ← fs.withDefault "rounds" (Json.dict? decode?) ∅⟩

instance : Exchange EngineConfig where
  encode c :=
    .object
      [("start_state", .ofOption encode c.startState),
        ("notification_capacity", ofUInt64 c.notificationCapacity),
        ("history_capacity", ofUInt64 c.historyCapacity)]
  decode? j := do
    let fs ← Json.fields? ["start_state", "notification_capacity", "history_capacity"] j
    let c := EngineConfig.standard
    return ⟨← fs.withDefault "start_state" (Json.option? decode?) none,
      ← fs.withDefault "notification_capacity" Json.uint64? c.notificationCapacity,
      ← fs.withDefault "history_capacity" Json.uint64? c.historyCapacity⟩

instance : Exchange EngineSection where
  encode c :=
    .object
      [("start_state", .ofOption .string c.startState),
        ("notification_capacity", ofUInt64 c.notificationCapacity),
        ("history_capacity", ofUInt64 c.historyCapacity),
        ("specification", .ofOption .string c.specification)]
  decode? j := do
    let fs ← Json.fields? ["start_state", "notification_capacity", "history_capacity",
      "specification"] j
    let c := EngineSection.standard
    return ⟨← fs.withDefault "start_state" (Json.option? Json.string?) none,
      ← fs.withDefault "notification_capacity" Json.uint64? c.notificationCapacity,
      ← fs.withDefault "history_capacity" Json.uint64? c.historyCapacity,
      ← fs.withDefault "specification" (Json.option? Json.string?) none⟩

instance : Exchange Logging where
  encode c := .object [("level", .string c.level), ("json", .bool c.json)]
  decode? j := do
    let fs ← Json.fields? ["level", "json"] j
    return ⟨← fs.withDefault "level" Json.string? Logging.standard.level,
      ← fs.withDefault "json" Json.bool? Logging.standard.json⟩

instance : Exchange Configuration where
  encode c :=
    .object
      [("engine", encode c.engine), ("timeouts", encode c.timeouts), ("retry", encode c.retry),
        ("logging", encode c.logging)]
  decode? j := do
    let fs ← Json.fields? ["engine", "timeouts", "retry", "logging"] j
    let c := Configuration.standard
    return ⟨← fs.withDefault "engine" decode? c.engine,
      ← fs.withDefault "timeouts" decode? c.timeouts,
      ← fs.withDefault "retry" decode? c.retry, ← fs.withDefault "logging" decode? c.logging⟩

/-! ## Transitions -/

instance : Exchange Streak where
  encode s :=
    .object
      [("round", .ofOption encode s.round), ("consecutive", ofUInt32 s.consecutive),
        ("signalled", .bool s.signalled)]
  decode? j := do
    let fs ← Json.fields? ["round", "consecutive", "signalled"] j
    return ⟨← fs.withDefault "round" (Json.option? decode?) none,
      ← fs.required "consecutive" Json.uint32?, ← fs.required "signalled" Json.bool?⟩

end Exchange

/-- A record with the moment at which it was made. -/
structure StampedRecord where
  /-- The record. -/
  record : Record
  /-- The moment. -/
  moment : Moment
  deriving DecidableEq, Repr, Inhabited

namespace Exchange

open Json (Fields)

instance : Exchange StampedRecord where
  encode s :=
    .object
      [("step", .nat s.record.step), ("from", encode s.record.source),
        ("event", encode s.record.event),
        ("to", encode s.record.target), ("period", .nat s.record.period),
        ("timed_out", .bool s.record.timedOut), ("timestamp", encode s.moment)]
  decode? j := do
    let fs ← Json.fields? ["step", "from", "event", "to", "period", "timed_out", "timestamp"] j
    let count := Json.natural? (UInt64.size - 1)
    return ⟨⟨← fs.required "step" count, ← fs.required "from" decode?,
      ← fs.required "event" decode?,
      ← fs.required "to" decode?, ← fs.required "period" count,
      ← fs.required "timed_out" Json.bool?⟩,
      ← fs.required "timestamp" decode?⟩

instance {ρ : Type} [Exchange ρ] : Exchange (Change ρ) where
  encode c :=
    .object
      [("record", encode c.record), ("retry_limit_exceeded", .bool c.limitExceeded),
        ("consecutive_retries", ofUInt32 c.consecutive)]
  decode? j := do
    let fs ← Json.fields? ["record", "retry_limit_exceeded", "consecutive_retries"] j
    return ⟨← fs.required "record" decode?, ← fs.required "retry_limit_exceeded" Json.bool?,
      ← fs.required "consecutive_retries" Json.uint32?⟩

end Exchange

end RoundWorkflow
