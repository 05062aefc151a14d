import Conform.Command.Describe
import Conform.CommandLine.Invocation

/-!
A whole run of the program, as a function from arguments, files and surroundings to what it writes
and the code that it exits with.
-/

namespace Conform
open CommandLine (Command Invocation UsageFault)

/-- How an invocation ends. -/
structure Ending where
  outcome : Outcome
  /-- What is told about the log. -/
  notices : List String
  /-- Whether the failure is painted. -/
  color : Bool
deriving DecidableEq, Repr

/-- The word in front of a failure. Invalid documents are no error of the program. -/
def Failure.label (color : Bool) (f : Failure) : String :=
  let (tint, word) :=
    match f with
    | invalid .. => (Tint.boldYellow, "Invalid:")
    | _ => (Tint.boldRed, "Error:")
  if color then tint.paint word else word

/-- A failure as readers see it. -/
def Failure.render (color : Bool) (f : Failure) : String := f.label color ++ " " ++ f.message

/-- What follows the message of a failure to which the help has an answer. -/
def helpHint : String := "\nFor more information, try '--help'"

namespace CommandLine

/-- The schema and the documents of a command. -/
def Command.paths : Command → List String
  | validate request => request.schema :: request.documents
  | check schema => [schema]
  | kinds | completions _ => []

/-- Runs a command. Completion scripts belong to the shells: asking for one writes nothing. -/
def Command.run (files : Files) (settings : Settings) (c : Console) : Command → Outcome
  | validate request => request.run files settings c
  | check schema => checkSchema files c schema
  | kinds => listKinds Registry.builtin c
  | completions _ => .done ""

namespace Invocation

/-- What a run logs: flags and the settings file come first, then the environment; quiet runs log
errors only. -/
def logLevel (env : Environment) (preference : LogPreference) (i : Invocation) : String :=
  if i.quiet then "error"
  else
    let verbosity := i.effectiveVerbosity
    (Assoc.lookup "RUST_LOG" env).getD
      ((Logging.ofVerbosity verbosity).prefer preference verbosity).level

def formatVariable : String := "DUCKHUNT_LOG_FORMAT"

/-- The environment asks for a layout of the log that is not known. -/
def formatNotice (env : Environment) : List String :=
  match Assoc.lookup formatVariable env with
  | some name =>
    if (LogFormat.ofName? name).isNone then
      ["Ignoring unknown " ++ formatVariable ++ " `" ++ name ++ "`"]
    else []
  | none => []

/-- The level of the log cannot be understood. -/
def levelNotice (level : String) : List String :=
  match LogFilter.check level with
  | .ok _ => []
  | .error cause =>
    ["Failed to initialize logging: " ++ (Failure.settings (.logLevel level cause)).message]

/-- What is told about the log, also of a run whose settings cannot be had. -/
def notices (env : Environment) (settings : Except Failure Settings) (i : Invocation) :
    List String :=
  let preference := (settings.toOption.map (·.logging)).getD .default
  formatNotice env ++ levelNotice (i.logLevel env preference)

/-- The files that a run may look at. -/
def paths (env : Environment) (i : Invocation) : List String :=
  i.config.elim (Settings.places env) (fun path => [path]) ++ i.command.paths

def console (settings : Settings) (colors : Bool) (i : Invocation) (format : OutputFormat) :
    Console :=
  ⟨format, colors && i.color && settings.output.color, i.quiet⟩

def outcome (files : Files) (colors : Bool) (i : Invocation) :
    Except Failure Settings → Outcome
  | .error f => .failed "" f
  | .ok settings =>
    match settings.outputFormat i.output with
    | .error f => .failed "" f
    | .ok format => i.command.run files settings (i.console settings colors format)

/-- Runs an invocation where colors can be shown or not. -/
def run (files : Files) (env : Environment) (colors : Bool) (i : Invocation) : Ending :=
  let settings := Settings.load files env i.config
  let allowed := (settings.toOption.map (·.output.color)).getD true
  ⟨i.outcome files colors settings, i.notices env settings, colors && i.color && allowed⟩

end Invocation

end CommandLine

namespace Ending

def exitCode (e : Ending) : Nat := (e.outcome.failure?.map Failure.exitCode).getD 0

/-- What is written beside the answer itself. -/
def errorText (e : Ending) : String :=
  String.join (e.notices.map Console.line) ++
    match e.outcome.failure? with
    | none => ""
    | some f => Console.line (f.render e.color) ++ if f.showsHelp then Console.line helpHint else ""

end Ending

end Conform
