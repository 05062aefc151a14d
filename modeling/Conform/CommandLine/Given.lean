import Conform.CommandLine.Basic
import Conform.Power

/-!
What the arguments of one level say.
-/

namespace Conform.CommandLine

structure Given where
  verbosity : Nat
  /-- The flags but for the verbose one, each at most once. -/
  flags : List Flag
  config : Option String
  output : Option OutputFormat
  schema : Option String
  maxFailures : Option Nat
  operands : List String
deriving DecidableEq, Repr

def Given.nothing : Given := ⟨0, [], none, none, none, none, []⟩

/-- A path has at least one character. -/
def pathValue (argument value : String) : Except UsageFault String :=
  if value.isEmpty then .error (.invalidValue argument "" []) else .ok value

def formatValue (argument value : String) : Except UsageFault OutputFormat :=
  match OutputFormat.ofName? value with
  | some format => .ok format
  | none => .error (.invalidValue argument value (OutputFormat.all.map OutputFormat.name))

/-- A count after some digits of it, which has to fit 64 bits all along. -/
def countDigit (n : Nat) (c : Char) : Except CountFault Nat :=
  if c.isDigit then
    let m := 10 * n + (c.toNat - 48)
    if m < pow2 64 then .ok m else .error .tooLarge
  else .error .digit

/-- Digits, perhaps with a plus sign. -/
def count (cs : List Char) : Except CountFault Nat :=
  match cs with
  | [] => .error .empty
  | '+' :: c :: cs => (c :: cs).foldlM countDigit 0
  | cs => cs.foldlM countDigit 0

def countValue (argument value : String) : Except UsageFault Nat :=
  (count value.toList).mapError (.invalidCount argument value)

def shellValue (argument value : String) : Except UsageFault String :=
  if shells.contains value then .ok value else .error (.invalidValue argument value shells)

namespace Given

/-- The same without any flag or option. -/
def isNothing (g : Given) : Bool := g == nothing

/-- How often the verbose flag counts at most. -/
def maxVerbosity : Nat := 255

def addFlag (g : Given) : Flag → Except UsageFault Given
  | .help => .error .helpAsked
  | .version => .error .versionAsked
  | .verbose => .ok { g with verbosity := min (g.verbosity + 1) maxVerbosity }
  | f =>
    if g.flags.contains f then .error (.repeated ("--" ++ f.long))
    else .ok { g with flags := f :: g.flags }

def has (g : Given) : ValueOption → Bool
  | .config => g.config.isSome
  | .output => g.output.isSome
  | .schema => g.schema.isSome
  | .maxFailures => g.maxFailures.isSome

def setValue (g : Given) (o : ValueOption) (value : String) : Except UsageFault Given :=
  match o with
  | .config => do return { g with config := some (← pathValue o.shown value) }
  | .output => do return { g with output := some (← formatValue o.shown value) }
  | .schema => do return { g with schema := some (← pathValue o.shown value) }
  | .maxFailures => do return { g with maxFailures := some (← countValue o.shown value) }

/-- An option may be given once at a level. -/
def addOption (g : Given) (o : ValueOption) (value : String) : Except UsageFault Given :=
  if g.has o then .error (.repeated o.shown) else g.setValue o value

def operandValue (l : Level) (value : String) : Except UsageFault String :=
  if l = some .completions then shellValue l.operandShown value
  else pathValue l.operandShown value

def addOperands (l : Level) (g : Given) (values : List String) : Except UsageFault Given := do
  return { g with operands := g.operands ++ (← values.mapM (operandValue l)) }

end Given

end Conform.CommandLine
