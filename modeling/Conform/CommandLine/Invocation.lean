import Conform.CommandLine.Reader

/-!
Arguments as an invocation: a command, and options that concern every command.
-/

namespace Conform.CommandLine

inductive Command where
  | validate (request : ValidateRequest)
  | check (schema : String)
  | kinds
  /-- A script that completes commands in a shell. -/
  | completions (shell : String)
deriving DecidableEq, Repr

structure Invocation where
  verbosity : Nat
  quiet : Bool
  color : Bool
  /-- A file with settings. -/
  config : Option String
  output : Option OutputFormat
  command : Command
deriving DecidableEq, Repr

/-- The variable that names a file with settings. -/
def configVariable : String := "DUCKHUNT_CONFIG"

namespace Given

/-- Where the arguments of a level name no file with settings, the environment may. -/
def checkConfig (env : Environment) (g : Given) : Except UsageFault Unit :=
  match g.config, Assoc.lookup configVariable env with
  | none, some path => (pathValue ValueOption.config.shown path).map fun _ => ()
  | _, _ => .ok ()

def checkConflicts (g : Given) : Except UsageFault Unit :=
  if g.flags.contains .quiet && 0 < g.verbosity then .error .quietAndVerbose else .ok ()

/-- What a command cannot do without. -/
def missing (c : CommandName) (g : Given) : List String :=
  match c with
  | .validate =>
    (if g.schema.isNone then [ValueOption.schema.shown] else []) ++
      if g.operands.isEmpty then [Level.operandShown (some c)] else []
  | .check | .completions =>
    if g.operands.isEmpty then [Level.operandShown (some c)] else []
  | .kinds => []

def command (g : Given) : CommandName → Except UsageFault Command
  | .validate =>
    match g.schema, g.operands with
    | some schema, document :: documents =>
      .ok (.validate ⟨schema, document :: documents, g.flags.contains .failFast, g.maxFailures,
        g.flags.contains .tree⟩)
    | _, _ => .error (.missingArguments (g.missing .validate))
  | .check =>
    match g.operands with
    | schema :: _ => .ok (.check schema)
    | [] => .error (.missingArguments (g.missing .check))
  | .kinds => .ok .kinds
  | .completions =>
    match g.operands with
    | shell :: _ => .ok (.completions shell)
    | [] => .error (.missingArguments (g.missing .completions))

end Given

/-- Why arguments without a command are not enough. -/
def withoutCommand (env : Environment) (g : Given) : UsageFault :=
  if g.isNothing && !Assoc.contains configVariable env then .nothingAsked else .commandMissing

/-- What belongs to the command is finished before what stands in front of it. -/
def finishCommand (env : Environment) (c : CommandName) (arguments : List String) :
    Except UsageFault (Given × Command) := do
  let (r, _) ← Reader.start.read (some c) arguments
  let given := (← r.settle (some c)).given
  given.checkConfig env
  given.checkConflicts
  return (given, ← given.command c)

/-- What is said with the command goes before what is said in front of it, and the environment comes
last. -/
def Invocation.ofGiven (env : Environment) (top inner : Given) (c : Command) : Invocation where
  verbosity := if 0 < inner.verbosity then inner.verbosity else top.verbosity
  quiet := inner.flags.contains .quiet || top.flags.contains .quiet
  color := !(inner.flags.contains .noColor || top.flags.contains .noColor)
  config := (inner.config.or top.config).or (Assoc.lookup configVariable env)
  output := inner.output.or top.output
  command := c

/-- The arguments of a run, without the name of the program. -/
def Invocation.parse (env : Environment) (arguments : List String) :
    Except UsageFault Invocation := do
  let (r, command?) ← Reader.start.read none arguments
  match command? with
  | none =>
    let given := (← r.settle none).given
    given.checkConfig env
    throw (withoutCommand env given)
  | some (c, rest) =>
    let (inner, command) ← finishCommand env c rest
    let given := (← r.settle none).given
    given.checkConfig env
    given.checkConflicts
    return .ofGiven env given inner command

/-- Quiet runs are not verbose, whatever else is said. -/
def Invocation.effectiveVerbosity (i : Invocation) : Nat := if i.quiet then 0 else i.verbosity

end Conform.CommandLine
