/-!
# Options of a command line

An option has a long name, and may have a short one of a single letter.  A flag stands
alone.  Any other option has a value: the next argument, or what follows an equals sign
or the letter in the same argument.  The next argument is no value when it looks like an
option itself; a lone dash does not.  An option is given once, unless it collects values.

`Options.take` reads the options at the front of an argument list, up to the first
argument that is none.  Two dashes alone end the options.
-/

namespace RoundWorkflow

/-- What an option takes. -/
inductive OptionShape where
  /-- Nothing. -/
  | flag
  /-- One value. -/
  | value
  /-- A value each time it is given. -/
  | values
  /-- Nothing; it ends the reading with a text for the user. -/
  | notice
  deriving DecidableEq, Repr, Inhabited

/-- An option of a command. -/
structure OptionRule where
  /-- The long name, without dashes. -/
  long : String
  /-- The short name. -/
  short : Option Char
  /-- What the option takes. -/
  shape : OptionShape
  deriving Repr, Inhabited

/-- Whether an option takes no value. -/
def OptionRule.isBare (rule : OptionRule) : Bool := rule.shape = .flag || rule.shape = .notice

/-- Why a command line cannot be used. -/
inductive UsageFault where
  | unknownOption (argument : String)
  | missingValue (option : String)
  | unexpectedValue (option : String)
  | repeatedOption (option : String)
  | invalidValue (option value : String)
  | missingOption (option : String)
  | unexpectedArgument (argument : String)
  | unknownCommand (argument : String)
  | missingCommand
  deriving DecidableEq, Repr, Inhabited

/-- Why a command line asks for nothing to be done. -/
inductive Refusal where
  /-- It asks for help. -/
  | help
  /-- It asks for the version. -/
  | version
  /-- It cannot be used. -/
  | usage (fault : UsageFault)
  deriving DecidableEq, Repr, Inhabited

/-- The options that were given: their long names and values, newest first. -/
abbrev Options.Given := List (String × String)

namespace Options

/-- Takes note of an option, if its value is valid. -/
def note (valid : String → String → Bool) (given : Given) (rule : OptionRule) (value : String) :
    Except Refusal Given :=
  if rule.shape = .notice then .error (if rule.long = "version" then .version else .help)
  else if rule.shape ≠ .values && given.any (·.1 = rule.long) then
    .error (.usage (.repeatedOption rule.long))
  else if valid rule.long value then .ok ((rule.long, value) :: given)
  else .error (.usage (.invalidValue rule.long value))

/-- Whether an argument looks like an option. -/
def looksLikeOption (argument : String) : Bool :=
  match argument.toList with
  | '-' :: _ :: _ => true
  | _ => false

/-- Where the reading of options stands. -/
inductive Position where
  /-- Before an argument of any kind. -/
  | free
  /-- Before the value of an option. -/
  | due (rule : OptionRule)

/-- The letters of an argument with one dash, in turn. -/
def takeLetters (rules : List OptionRule) (valid : String → String → Bool) (given : Given) :
    List Char → Except Refusal (Given × Position)
  | [] => .ok (given, .free)
  | c :: rest =>
    match rules.find? fun rule => rule.short = some c with
    | none => .error (.usage (.unknownOption (String.ofList ['-', c])))
    | some rule =>
      if rule.isBare then do
        let given ← note valid given rule "true"
        takeLetters rules valid given rest
      else
        match rest with
        | [] => .ok (given, .due rule)
        | '=' :: value => (note valid given rule (String.ofList value)).map (·, .free)
        | value => (note valid given rule (String.ofList value)).map (·, .free)

/-- An argument with two dashes. -/
def takeLong (rules : List OptionRule) (valid : String → String → Bool) (given : Given)
    (cs : List Char) : Except Refusal (Given × Position) :=
  let name := String.ofList (cs.takeWhile (· ≠ '='))
  match rules.find? fun rule => rule.long = name, cs.dropWhile (· ≠ '=') with
  | none, _ => .error (.usage (.unknownOption name))
  | some rule, [] =>
    if rule.isBare then (note valid given rule "true").map (·, .free)
    else .ok (given, .due rule)
  | some rule, _ :: value =>
    if rule.isBare then .error (.usage (.unexpectedValue name))
    else (note valid given rule (String.ofList value)).map (·, .free)

/-- Reads options up to the first argument that is none; `valid` says which values an option may
have. -/
def take (rules : List OptionRule) (valid : String → String → Bool) (given : Given) :
    Position → List String → Except Refusal (Given × List String)
  | .free, [] => .ok (given, [])
  | .due rule, [] => .error (.usage (.missingValue rule.long))
  | .due rule, argument :: rest =>
    if looksLikeOption argument then .error (.usage (.missingValue rule.long))
    else do
      let given ← note valid given rule argument
      take rules valid given .free rest
  | .free, argument :: rest =>
    if !looksLikeOption argument || argument = "--" then .ok (given, argument :: rest)
    else do
      let (given, position) ← match argument.toList with
        | '-' :: '-' :: cs => takeLong rules valid given cs
        | cs => takeLetters rules valid given cs.tail
      take rules valid given position rest

/-- The value of an option that is given once. -/
def value? (given : Given) (name : String) : Option String :=
  (given.find? (·.1 = name)).map Prod.snd

/-- The values of an option, in the order in which they were given. -/
def values (given : Given) (name : String) : List String :=
  ((given.filter (·.1 = name)).map Prod.snd).reverse

end Options

end RoundWorkflow
