import RoundWorkflow.CommandLine.Commands

/-!
# Sessions

A session takes the arguments and the variables of the program, and ends with what the
program writes and its exit code: zero when all went well, one when a command failed, and
two when the command line cannot be used.
-/

namespace RoundWorkflow

/-- The wording of a fault of the command line. -/
def UsageFault.message : UsageFault → String
  | .unknownOption argument => "unexpected argument '" ++ argument ++ "'"
  | .missingValue option => "a value is required for '" ++ option ++ "'"
  | .unexpectedValue option => "no value can be given to '" ++ option ++ "'"
  | .repeatedOption option => "'" ++ option ++ "' cannot be used more than once"
  | .invalidValue option value => "invalid value '" ++ value ++ "' for '" ++ option ++ "'"
  | .missingOption option => "'" ++ option ++ "' has to be given"
  | .unexpectedArgument argument => "unexpected argument '" ++ argument ++ "'"
  | .unknownCommand argument => "unrecognized command '" ++ argument ++ "'"
  | .missingCommand => "a command has to be given"

/-- What the program writes, and its exit code. -/
structure Session where
  /-- The standard output. -/
  output : String
  /-- The standard error. -/
  errors : String
  /-- The exit code. -/
  code : Nat
  deriving DecidableEq, Repr, Inhabited

namespace Session

/-- How the program is used. -/
def usage : String :=
  "Usage: lockstep [-c FILE] [-o table|json|yaml] [--log-level LEVEL] [--json] COMMAND\n\n" ++
    "Commands:\n" ++
    "  validate [-s FILE] [--strict]                     Validate a transition table\n" ++
    "  export [-s FILE] [-f yaml|json|dot] [--to FILE]   Export the transition table\n" ++
    "  trace -e EVENTS [--start ROUND] [-s FILE]         Replay an event sequence\n" ++
    "  simulate [-n STEPS] [--seed SEED]                 " ++
      "Run the engine with seeded random behaviours\n" ++
    "  config                                            Show the effective configuration\n"

/-- The version of the program. -/
def version : String := "0.1.3"

/-- The session of a command line that asks for nothing to be done. -/
def refuse : Refusal → Session
  | .help => ⟨usage, "", 0⟩
  | .version => ⟨"lockstep " ++ version ++ "\n", "", 0⟩
  | .usage fault => ⟨"", "error: " ++ fault.message ++ "\n\n" ++ usage, 2⟩

/-- The session of a command that was performed. -/
def reply (r : Reply) : Session := ⟨r.output, r.errors, r.code⟩

/-- Runs the program. -/
def run {m : Type → Type} [Monad m] [Files m] (arguments : List String)
    (environment : Dict String) :
    m Session := do
  match Invocation.ofArguments arguments environment with
  | .ok invocation => return reply (← invocation.perform environment)
  | .error refusal => return refuse refusal

end Session

end RoundWorkflow
