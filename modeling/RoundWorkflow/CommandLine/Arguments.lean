import RoundWorkflow.CommandLine.Options
import RoundWorkflow.Dict
import RoundWorkflow.Report
import RoundWorkflow.Symbol
import RoundWorkflow.Text.Number
import RoundWorkflow.Text.Parts

/-!
# Invocations

An invocation is a command with its options.  The options for all commands stand before
the name of the command, and its own options after it.  Where a general option is not
given, a variable of the environment may stand in for it; one that holds no valid value
makes the command line unusable, even if nothing else is wrong.

`Invocation.ofArguments` reads an invocation.
-/

namespace RoundWorkflow

/-- The format of an exported table. -/
inductive ExportFormat where
  | yaml
  | json
  | graphviz
  deriving DecidableEq, Repr, Inhabited

/-- What is to be done. -/
inductive Command where
  /-- Checks a table; if `strict`, a warning is a failure. -/
  | validate (table : Option String) (strict : Bool)
  /-- Writes a table out, to a file if one is given. -/
  | exportTable (table : Option String) (format : ExportFormat) (destination : Option String)
  /-- Replays events. -/
  | trace (events : List Event) (start : Option Round) (table : Option String)
  /-- Simulates a replica. -/
  | simulate (steps seed : UInt64)
  /-- Shows the configuration. -/
  | configuration
  deriving DecidableEq, Repr, Inhabited

/-- A command and the general options. -/
structure Invocation where
  /-- The path of the configuration file. -/
  configuration : Option String
  /-- The layout of the report. -/
  layout : Layout
  /-- The filter of the log. -/
  logFilter : Option String
  /-- The command. -/
  command : Command
  deriving DecidableEq, Repr, Inhabited

/-! ## Values of options -/

/-- The names of layouts. -/
def layouts : List (String × Layout) := [("table", .grid), ("json", .json), ("yaml", .yaml)]

/-- The names of formats of exports. -/
def exportFormats : List (String × ExportFormat) :=
  [("yaml", .yaml), ("json", .json), ("dot", .graphviz)]

/-- The number of 64 bits that a text denotes; a plus may stand before its digits. -/
def count? (s : String) : Option UInt64 :=
  let digits := match s.toList with
    | '+' :: cs => cs
    | cs => cs
  ((Text.natural? digits).filter (· < UInt64.size)).map UInt64.ofNat

/-- The events of a text with commas between them. -/
def events? (s : String) : Option (List Event) :=
  (Text.parts ',' s.toList).mapM fun cs => (Event.parse (String.ofList cs)).toOption

/-! ## Commands -/

namespace Command

/-- The option that every command has. -/
def helpRule : OptionRule := ⟨"help", some 'h', .notice⟩

/-- The option that names the file of a table. -/
def tableRule : OptionRule := ⟨"spec", some 's', .value⟩

/-- The options of a command that is named. -/
def rules? : String → Option (List OptionRule)
  | "validate" => some [tableRule, ⟨"strict", none, .flag⟩, helpRule]
  | "export" => some [tableRule, ⟨"format", some 'f', .value⟩, ⟨"to", none, .value⟩, helpRule]
  | "trace" => some [⟨"events", some 'e', .values⟩, ⟨"start", none, .value⟩, tableRule, helpRule]
  | "simulate" => some [⟨"steps", some 'n', .value⟩, ⟨"seed", none, .value⟩, helpRule]
  | "config" => some [helpRule]
  | _ => none

/-- Whether an option of a command may have a value. -/
def valid : String → String → Bool
  | "format", v => (exportFormats.lookup v).isSome
  | "events", v => (events? v).isSome
  | "start", v => (Round.parse v).isOk
  | "steps", v | "seed", v => (count? v).isSome
  | _, _ => true

/-- The command that is named, with its options. -/
def ofOptions (name : String) (given : Options.Given) : Except Refusal Command :=
  let value := Options.value? given
  match name with
  | "validate" => .ok (.validate (value "spec") (value "strict").isSome)
  | "export" =>
    .ok (.exportTable (value "spec")
      (((value "format").bind fun s => exportFormats.lookup s).getD .yaml) (value "to"))
  | "trace" =>
    match Options.values given "events" with
    | [] => .error (.usage (.missingOption "events"))
    | texts =>
      let start := (value "start").bind fun s => (Round.parse s).toOption
      .ok (.trace (texts.flatMap fun s => (events? s).getD []) start (value "spec"))
  | "simulate" =>
    .ok (.simulate (((value "steps").bind count?).getD 100) (((value "seed").bind count?).getD 0))
  | _ => .ok .configuration

/-- Reads a command; no argument is left over. -/
def ofArguments : List String → Except Refusal Command
  | [] => .error (.usage .missingCommand)
  | "help" :: names =>
    match names with
    | [] => .error .help
    | name :: rest =>
      if ((rules? name).isSome || name = "help") && rest = [] then .error .help
      else .error (.usage (.unknownCommand name))
  | name :: arguments =>
    match rules? name with
    | none => .error (.usage (.unknownCommand name))
    | some rules => do
      let (given, rest) ← Options.take rules valid [] .free arguments
      match rest with
      | [] | ["--"] => ofOptions name given
      | argument :: _ => .error (.usage (.unexpectedArgument argument))

end Command

/-! ## General options -/

namespace Invocation

/-- The options that stand before the name of a command.  Two of them are about the log. -/
def rules : List OptionRule :=
  [⟨"config", some 'c', .value⟩, ⟨"output", some 'o', .value⟩, ⟨"log-level", none, .value⟩,
    ⟨"json", none, .flag⟩, Command.helpRule, ⟨"version", some 'V', .notice⟩]

/-- Whether a general option may have a value. -/
def valid : String → String → Bool
  | "output", v => (layouts.lookup v).isSome
  | "json", v => v = "true" || v = "false"
  | _, _ => true

/-- The variable that may stand in for an option. -/
def standIn? : String → Option String
  | "config" => some "LOCKSTEP_CONFIG"
  | "log-level" => some "LOCKSTEP_LOG_LEVEL"
  | "json" => some "LOCKSTEP_LOG_JSON"
  | _ => none

/-- The options that were given, and those that the environment stands in for. -/
def withEnvironment (given : Options.Given) (environment : Dict String) :
    List OptionRule → Except Refusal Options.Given
  | [] => .ok given
  | rule :: rest =>
    match (standIn? rule.long).bind environment.get? with
    | none => withEnvironment given environment rest
    | some v =>
      if (Options.value? given rule.long).isSome then withEnvironment given environment rest
      else do
        let given ← Options.note valid given rule v
        withEnvironment given environment rest

/-- Reads an invocation. -/
def ofArguments (arguments : List String) (environment : Dict String) :
    Except Refusal Invocation := do
  let (given, rest) ← Options.take rules valid [] .free arguments
  let command ← Command.ofArguments rest
  let given ← withEnvironment given environment rules
  let layout := ((Options.value? given "output").bind fun s => layouts.lookup s).getD .grid
  return ⟨Options.value? given "config", layout, Options.value? given "log-level", command⟩

end Invocation

end RoundWorkflow
