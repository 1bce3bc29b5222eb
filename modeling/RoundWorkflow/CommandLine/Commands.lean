import RoundWorkflow.CommandLine.Arguments
import RoundWorkflow.CommandLine.LogFilter
import RoundWorkflow.Configuration.File
import RoundWorkflow.Random.Cipher
import RoundWorkflow.Replay
import RoundWorkflow.Simulation
import RoundWorkflow.Table.Graphviz

/-!
# Commands

A command is performed on the files of some place and answers with a `Reply`: what it
writes for the user, and its failure if it failed.  What was written before a failure
stands.  The table of a command is the one its option names, else the one of the
configuration, else the canonical one.

A configuration that cannot be read fails every command, and so does it before the
table is looked at.  A name in it that is no round fails only the commands that need
the engine.
-/

namespace RoundWorkflow

/-- Why a command fails. -/
inductive Failure where
  /-- The settings of the configuration cannot be read. -/
  | unreadableSettings
  /-- A setting of the engine cannot be used. -/
  | unusableSetting (cause : Error)
  /-- The table has warnings, which count as failures. -/
  | warnings (count : Nat)
  /-- The table or the replica fails. -/
  | workflow (cause : Error)
  /-- The launch of the replica is the end of the program. -/
  | aborted
  /-- A file cannot be read or written. -/
  | file (fault : FileFault)
  deriving DecidableEq, Repr, Inhabited

/-- The wording of a failure.  An aborted program has none of its own. -/
def Failure.message : Failure → String
  | .unreadableSettings => "Configuration error: the settings cannot be read"
  | .unusableSetting cause => "Configuration error: " ++ cause.message
  | .warnings count => "Invalid input: " ++ toString count ++ " validation warning(s)"
  | .workflow cause => cause.message
  | .aborted => ""
  | .file fault => "IO error: " ++ fault.message

/-- What a command answers. -/
structure Reply where
  /-- The text for the user. -/
  output : String
  /-- Remarks on the log and on a failure. -/
  remarks : String
  /-- The failure, if the command failed. -/
  failure : Option Failure
  deriving DecidableEq, Repr, Inhabited

namespace Reply

/-- The reply of a command that succeeds. -/
def done (output : String) : Reply := ⟨output, "", none⟩

/-- The reply of a command that writes nothing before it fails. -/
def failed (failure : Failure) : Reply := ⟨"", "", some failure⟩

/-- The exit code of a reply. -/
def code (r : Reply) : Nat :=
  match r.failure with
  | none => 0
  | some .aborted => 101
  | some _ => 1

/-- All that is written about a failure. -/
def errors (r : Reply) : String :=
  match r.failure with
  | none | some .aborted => r.remarks
  | some failure => r.remarks ++ "Error: " ++ failure.message ++ "\n"

end Reply

namespace Command

open MonadExcept (ofExcept)

/-! ## Lines for the user -/

/-- A line on a success. -/
def successLine (s : String) : String := "✓ " ++ s ++ "\n"

/-- A line on a doubt. -/
def warningLine (s : String) : String := "! " ++ s ++ "\n"

/-- A line on a failure. -/
def failureLine (s : String) : String := "✗ " ++ s ++ "\n"

/-- A line on an outcome. -/
def outcomeLine (s : String) : String := "→ " ++ s ++ "\n"

/-! ## Replies -/

/-- The reply to a check of a table. -/
def validation (t : Table) (strict : Bool) (layout : Layout) : Reply :=
  let findings := Report.text layout (t.states.map (Report.roundRow t)) ++
    String.join (t.warnings.map fun w => warningLine w.text)
  if strict && !t.warnings.isEmpty then ⟨findings, "", some (.warnings t.warnings.length)⟩
  else
    .done <| findings ++ successLine
      ("Valid: " ++ toString t.states.length ++ " rounds, " ++
        toString t.specification.alphabet.toList.length ++ " events, " ++ toString t.edgeCount ++
        " transitions, default start " ++ t.defaultStart.name)

/-- The text of an exported table. -/
def exported (t : Table) : ExportFormat → String
  | .yaml => t.specification.yamlText
  | .json => t.specification.jsonText
  | .graphviz => t.dot

/-- The reply to a replay. -/
def replayed (r : Replay) (layout : Layout) : Reply :=
  let listing := Report.text layout r.rows
  match r.violation with
  | none => .done (listing ++ outcomeLine ("Final round: " ++ r.finalRound.name))
  | some cause =>
    ⟨listing, failureLine ("Replica frozen at " ++ r.finalRound.name), some (.workflow cause)⟩

/-- The reply to a simulation. -/
def simulated (s : Simulation) (layout : Layout) : Reply :=
  let signals :=
    if s.retrySignals = 0 then ""
    else warningLine (toString s.retrySignals ++ " retry limit signal(s) raised")
  .done <| Report.text layout s.rows ++ signals ++
    outcomeLine ("Final round: " ++ s.finalRound.name ++ " (period " ++ toString s.period ++ ")")

/-- The simulation of a configured replica. -/
def simulation (t : Table) (c : Configuration) (steps seed : UInt64) :
    Except Failure Simulation := do
  let config ← c.engineConfig.mapError .unusableSetting
  match Engine.launch t config .standard with
  | .refused fault => throw (.workflow fault)
  | .aborted => throw .aborted
  | .ready g =>
    let supervisor ← c.supervisor.mapError .workflow
    let g := { g with supervisor := supervisor }
    (RoundWorkflow.simulate g steps.toNat (Generator.ofSeed seed)).mapError .workflow

/-! ## Files -/

variable {m : Type → Type} [Monad m] [Files m]

/-- Whether a file is a JSON file, by its ending. -/
def isJsonFile (path : String) : Bool :=
  (fileExtension? path).any fun e => e.toList.map Char.toLower = "json".toList

/-- The table in a file, or the canonical one. -/
def table (path : Option String) : ExceptT Failure m Table := do
  match path with
  | none => ofExcept ((Table.load .canonical).mapError .workflow)
  | some path =>
    let text ← ofExcept ((← (Files.read path : m _)).mapError .file)
    let read := if isJsonFile path then Specification.readJson else Specification.readYaml
    ofExcept ((read text >>= Table.load).mapError .workflow)

/-- Performs a command under a configuration. -/
def perform (c : Configuration) (layout : Layout) : Command → ExceptT Failure m Reply
  | .validate path strict => do
    return validation (← table (path <|> c.engine.specification)) strict layout
  | .exportTable path format destination => do
    let text := exported (← table (path <|> c.engine.specification)) format
    match destination with
    | none => return .done text
    | some destination =>
      let _ ← ofExcept ((← (Files.write destination text : m _)).mapError .file)
      return .done ""
  | .trace events start path => do
    let start ← match start with
      | some r => pure (some r)
      | none => ofExcept ((c.engineConfig.mapError .unusableSetting).map EngineConfig.startState)
    let t ← table (path <|> c.engine.specification)
    return replayed (← ofExcept ((replay t start events).mapError .workflow)) layout
  | .simulate steps seed => do
    let t ← table c.engine.specification
    return simulated (← ofExcept (simulation t c steps seed)) layout
  | .configuration => return .done (Report.configurationText layout c)

end Command

namespace Invocation

variable {m : Type → Type} [Monad m] [Files m]

/-- The variable with the filter of the log that comes before all others, if it is valid. -/
def logVariable : String := "RUST_LOG"

/-- The remarks on the filter of the log: the one of the command line, or else of the
configuration. -/
def logRemarks (invocation : Invocation) (environment : Dict String) (c : Configuration) : String :=
  if (environment.get? logVariable).any LogFilter.isValid then ""
  else LogFilter.remarks (invocation.logFilter.getD c.logging.level)

/-- Performs an invocation. -/
def perform (invocation : Invocation) (environment : Dict String) : m Reply := do
  match ← Configuration.load? invocation.configuration environment with
  | none => return .failed .unreadableSettings
  | some c =>
    let reply := match ← (invocation.command.perform c invocation.layout).run with
      | .ok reply => reply
      | .error failure => .failed failure
    return { reply with remarks := invocation.logRemarks environment c ++ reply.remarks }

end Invocation

end RoundWorkflow
