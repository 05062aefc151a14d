import Conform.Command.Validate
import Conform.Text.Similarity

/-!
Options and commands that arguments may name, and what is wrong with arguments that do not.
-/

namespace Conform.CommandLine

inductive CommandName where
  | validate
  | check
  | kinds
  | completions
deriving DecidableEq, Repr

def CommandName.all : List CommandName := [validate, check, kinds, completions]

def CommandName.name : CommandName → String
  | validate => "validate"
  | check => "check"
  | kinds => "kinds"
  | completions => "completions"

def CommandName.ofName? (name : String) : Option CommandName := all.find? fun c => c.name == name

/-- Options without a value. -/
inductive Flag where
  | verbose
  | quiet
  | noColor
  | failFast
  | tree
  | help
  | version
deriving DecidableEq, Repr

def Flag.long : Flag → String
  | verbose => "verbose"
  | quiet => "quiet"
  | noColor => "no-color"
  | failFast => "fail-fast"
  | tree => "tree"
  | help => "help"
  | version => "version"

def Flag.short? : Flag → Option Char
  | verbose => some 'v'
  | quiet => some 'q'
  | help => some 'h'
  | version => some 'V'
  | _ => none

/-- Options with a value. -/
inductive ValueOption where
  | config
  | output
  | schema
  | maxFailures
deriving DecidableEq, Repr

def ValueOption.long : ValueOption → String
  | config => "config"
  | output => "output"
  | schema => "schema"
  | maxFailures => "max-failures"

def ValueOption.short? : ValueOption → Option Char
  | config => some 'c'
  | output => some 'o'
  | schema => some 's'
  | maxFailures => none

/-- An option as messages show it. -/
def ValueOption.shown : ValueOption → String
  | config => "--config <CONFIG>"
  | output => "--output <OUTPUT>"
  | schema => "--schema <SCHEMA>"
  | maxFailures => "--max-failures <COUNT>"

/-- Arguments stand before the command or belong to it. -/
abbrev Level := Option CommandName

namespace Level

def flags (l : Level) : List Flag :=
  [.verbose, .quiet, .noColor, .help, .version] ++
    if l = some .validate then [.failFast, .tree] else []

def options (l : Level) : List ValueOption :=
  [.config, .output] ++ if l = some .validate then [.schema, .maxFailures] else []

/-- Whether one more operand may follow so many. -/
def takesOperand (count : Nat) (l : Level) : Bool :=
  match l with
  | some .validate => true
  | some .check | some .completions => count = 0
  | some .kinds | none => false

/-- The operands as messages show them. -/
def operandShown (l : Level) : String :=
  match l with
  | some .validate => "<DOCUMENT>..."
  | some .completions => "<SHELL>"
  | _ => "<SCHEMA>"

end Level

def shells : List String := ["bash", "elvish", "fish", "powershell", "zsh"]

inductive CountFault where
  | empty
  | digit
  | tooLarge
deriving DecidableEq, Repr

def CountFault.message : CountFault → String
  | .empty => "cannot parse integer from empty string"
  | .digit => "invalid digit found in string"
  | .tooLarge => "number too large to fit in target type"

/-- Why arguments start no command. -/
inductive UsageFault where
  | helpAsked
  | versionAsked
  /-- There are no arguments at all. -/
  | nothingAsked
  | commandMissing
  | unknownCommand (name : String)
  | unknownArgument (argument : String)
  /-- A flag has a value. -/
  | surplusValue (argument value : String)
  | repeated (argument : String)
  | quietAndVerbose
  | missingArguments (arguments : List String)
  /-- The value is missing or none of the choices, if there are any. -/
  | invalidValue (argument value : String) (choices : List String)
  | invalidCount (argument value : String) (cause : CountFault)
deriving DecidableEq, Repr

namespace UsageFault

def choicesText (choices : List String) : String :=
  if choices.isEmpty then ""
  else "\n  [possible values: " ++ String.intercalate ", " choices ++ "]"

def tip (value : String) (choices : List String) : String :=
  match Text.mostSimilar? value choices with
  | some choice => "\n\n  tip: a similar value exists: '" ++ choice ++ "'"
  | none => ""

def message : UsageFault → String
  | helpAsked => "help is asked for"
  | versionAsked => "the version is asked for"
  | nothingAsked | commandMissing => "a subcommand is required but one was not provided"
  | unknownCommand name => "unrecognized subcommand '" ++ name ++ "'"
  | unknownArgument argument => "unexpected argument '" ++ argument ++ "' found"
  | surplusValue argument value =>
    "unexpected value '" ++ value ++ "' for '" ++ argument ++
      "' found; no more were expected"
  | repeated argument =>
    "the argument '" ++ argument ++ "' cannot be used multiple times"
  | quietAndVerbose => "the argument '--quiet' cannot be used with '--verbose...'"
  | missingArguments arguments =>
    "the following required arguments were not provided:" ++
      String.join (arguments.map fun a => "\n  " ++ a)
  | invalidValue argument value choices =>
    (if value.isEmpty then "a value is required for '" ++ argument ++ "' but none was supplied"
    else "invalid value '" ++ value ++ "' for '" ++ argument ++ "'") ++
      choicesText choices ++ tip value choices
  | invalidCount argument value cause =>
    "invalid value '" ++ value ++ "' for '" ++ argument ++ "': " ++ cause.message

/-- Faults of single values say enough without the usage. -/
def showsUsage : UsageFault → Bool
  | invalidValue .. | invalidCount .. => false
  | _ => true

/-- How the program is to be called. -/
def usage : String := "Usage: duckhunt [OPTIONS] <COMMAND>"

/-- A fault as readers see it. -/
def render (f : UsageFault) : String :=
  "error: " ++ f.message ++ (if f.showsUsage then "\n\n" ++ usage else "") ++
    "\n\nFor more information, try '--help'.\n"

/-- Asking for help or the version is no mistake. -/
def exitCode : UsageFault → Nat
  | helpAsked | versionAsked => 0
  | _ => 2

end UsageFault

end Conform.CommandLine
