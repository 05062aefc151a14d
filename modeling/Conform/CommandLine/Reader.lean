import Conform.CommandLine.Given

/-!
Arguments read in order. What an option or an operand says is looked at only once the next one
begins, so of two faults it is not always the first that counts.
-/

namespace Conform.CommandLine

/-- What is read but not looked at yet. -/
inductive Pending where
  | option (o : ValueOption) (value : Option String)
  /-- Operands in a row, the last first. -/
  | operands (values : List String)
deriving DecidableEq, Repr

structure Reader where
  given : Given
  pending : Option Pending
  /-- All that is left are operands. -/
  trailing : Bool
deriving DecidableEq, Repr

/-- What an argument is by its form. -/
inductive Word where
  | command (c : CommandName)
  | help
  /-- Two dashes alone. -/
  | escape
  | long (name : String) (value : Option String)
  | short (cluster : List Char)
  | plain
deriving DecidableEq, Repr

namespace Word

/-- A long option after its dashes, cut at the first equals sign. -/
def ofLong (cs : List Char) : Word :=
  match cs.dropWhile (· != '=') with
  | _ :: value => long (String.ofList (cs.takeWhile (· != '='))) (some (String.ofList value))
  | [] => long (String.ofList cs) none

def ofDashes (argument : String) : Word :=
  match argument.toList with
  | ['-', '-'] => escape
  | '-' :: '-' :: cs => ofLong cs
  | '-' :: c :: cs => short (c :: cs)
  | _ => plain

/-- Names of commands count only before the command. -/
def ofArgument (l : Level) (argument : String) : Word :=
  if l.isSome then ofDashes argument
  else if argument = "help" then help
  else (CommandName.ofName? argument).elim (ofDashes argument) command

end Word

namespace Reader

def start : Reader := ⟨.nothing, none, false⟩

/-- An option waits for its value. -/
def awaits (r : Reader) : Bool :=
  match r.pending with
  | some (.option _ none) => true
  | _ => false

def choices : ValueOption → List String
  | .output => OutputFormat.all.map OutputFormat.name
  | _ => []

/-- Looks at what is pending. -/
def settle (l : Level) (r : Reader) : Except UsageFault Reader :=
  match r.pending with
  | none => .ok r
  | some (.option o none) => .error (.invalidValue o.shown "" (choices o))
  | some (.option o (some value)) => do
    return { r with given := ← r.given.addOption o value, pending := none }
  | some (.operands values) => do
    return { r with given := ← r.given.addOperands l values.reverse, pending := none }

def flag (l : Level) (r : Reader) (f : Flag) : Except UsageFault Reader := do
  let r ← r.settle l
  return { r with given := ← r.given.addFlag f }

/-- An option; its value may be attached to it. -/
def option (l : Level) (r : Reader) (o : ValueOption) (attached : Option String) :
    Except UsageFault Reader := do
  let r ← r.settle l
  match attached with
  | some value => return { r with given := ← r.given.addOption o value }
  | none => return { r with pending := some (.option o none) }

def long (l : Level) (r : Reader) (name : String) (value : Option String) :
    Except UsageFault Reader :=
  match l.flags.find? fun f => f.long == name with
  | some f =>
    match value with
    | some v => .error (.surplusValue ("--" ++ name) v)
    | none => r.flag l f
  | none =>
    match l.options.find? fun o => o.long == name with
    | some o => r.option l o value
    | none => .error (.unknownArgument ("--" ++ name))

/-- What follows the letter of an option is its value, perhaps after an equals sign. -/
def attached : List Char → Option String
  | [] => none
  | '=' :: cs => some (String.ofList cs)
  | cs => some (String.ofList cs)

/-- Letters after one dash. -/
def short (l : Level) (r : Reader) : List Char → Except UsageFault Reader
  | [] => .ok r
  | c :: cs =>
    match l.flags.find? fun f => f.short? == some c with
    | some f => do short l (← r.flag l f) cs
    | none =>
      match l.options.find? fun o => o.short? == some c with
      | some o => r.option l o (attached cs)
      | none => .error (.unknownArgument (String.ofList ['-', c]))

/-- How many operands there are so far. -/
def operandCount (r : Reader) : Nat :=
  r.given.operands.length +
    match r.pending with
    | some (.operands values) => values.length
    | _ => 0

/-- An operand too many. Before the command, it can only be meant as one; after two dashes, even the
name of a command is none. -/
def misplaced (l : Level) (r : Reader) (argument : String) : UsageFault :=
  if l.isSome || (r.trailing && (argument == "help" || (CommandName.ofName? argument).isSome)) then
    .unknownArgument argument
  else .unknownCommand argument

def operand (l : Level) (r : Reader) (argument : String) : Except UsageFault Reader :=
  if l.takesOperand r.operandCount then
    match r.pending with
    | some (.operands values) =>
      .ok { r with pending := some (.operands (argument :: values)) }
    | _ => do return { ← r.settle l with pending := some (.operands [argument]) }
  else .error (r.misplaced l argument)

/-- A plain argument is the value that an option waits for, or else an operand. -/
def plain (l : Level) (r : Reader) (argument : String) : Except UsageFault Reader :=
  match r.pending with
  | some (.option o none) => .ok { r with pending := some (.option o (some argument)) }
  | _ => r.operand l argument

/-- The command whose help is asked for has to be one, and commands have none of their own. -/
def helpFor : List String → UsageFault
  | [] => .helpAsked
  | name :: rest =>
    if name == "help" || (CommandName.ofName? name).isSome then
      match rest with
      | [] => .helpAsked
      | inner :: _ => .unknownCommand inner
    else .unknownCommand name

/-- Reads the arguments of a level, up to the command if they come before it. -/
def read (l : Level) (r : Reader) :
    List String → Except UsageFault (Reader × Option (CommandName × List String))
  | [] => .ok (r, none)
  | argument :: rest =>
    if r.trailing then do read l (← r.operand l argument) rest
    else
      match if r.awaits then Word.ofDashes argument else Word.ofArgument l argument with
      | .command c => .ok (r, some (c, rest))
      | .help => .error (helpFor rest)
      | .escape => read l { r with trailing := true } rest
      | .long name value => do read l (← r.long l name value) rest
      | .short cluster => do read l (← r.short l cluster) rest
      | .plain => do read l (← r.plain l argument) rest

end Reader

end Conform.CommandLine
