import Conform.Text.Blank
import Conform.Unicode.Property

/-!
Filters of the log: directives with commas between them, each a level or a part of the program
with a level.
-/

namespace Conform.LogFilter

inductive Fault where
  | directive
  | level
deriving DecidableEq, Repr

def Fault.message : Fault → String
  | .directive => "invalid filter directive"
  | .level =>
    "error parsing level filter: expected one of \"off\", \"error\", \"warn\", \"info\", " ++
      "\"debug\", \"trace\", or a number 0-5"

/-- How far a directive is read. -/
inductive Stage where
  | start
  /-- In a level or the name of a part. -/
  | word
  /-- In the name of a span, after its bracket. -/
  | span
  /-- In a field of a span, which must not be empty. -/
  | field (isEmpty : Bool)
  | fieldsDone
  | spanDone
  /-- In a level that starts after so many characters. -/
  | level (start : Nat)
deriving DecidableEq, Repr

def startsWord (c : Char) : Bool :=
  c = '-' || c = ':' || c = '_' || Unicode.alphabetic.contains c || Unicode.number.contains c

/-- The stage after the character at a place. -/
def Stage.step (place : Nat) (c : Char) : Stage → Option Stage
  | start => if c = '[' then some span else if startsWord c then some word else none
  | word => some (if c = '=' then level (place + 1) else if c = '[' then span else word)
  | span => some (if c = ']' then spanDone else if c = '{' then field true else span)
  | field isEmpty =>
    if c = '}' then if isEmpty then none else some fieldsDone else some (field false)
  | fieldsDone => if c = ']' then some spanDone else none
  | spanDone => if c = '=' then some (level (place + 1)) else none
  | level n => some (level n)

def Stage.run (place : Nat) (s : Stage) : List Char → Option Stage
  | [] => some s
  | c :: cs => (s.step place c).bind fun s => s.run (place + 1) cs

/-- Levels have names in any letter case, and numbers up to five. -/
def isLevel (cs : List Char) : Bool :=
  let digits := match cs with
    | '+' :: cs => cs
    | cs => cs
  let name := (String.ofList cs).toLower
  ["", "off", "error", "warn", "info", "debug", "trace"].contains name ||
    (digits.getLast?.any (fun c => '0' ≤ c && c ≤ '5') && digits.dropLast.all (· == '0'))

/-- White space around a directive is passed over when it is read, but not when its level is looked
up by the place where it starts. -/
def checkDirective (text : String) : Except Fault Unit :=
  match Stage.start.run 0 (Text.trim text.toList) with
  | some .word | some .spanDone => .ok ()
  | some (.level n) => if isLevel (text.toList.drop n) then .ok () else .error .level
  | _ => .error .directive

/-- Empty directives are passed over. -/
def check (filter : String) : Except Fault Unit :=
  (((filter.split ',').toList.map (·.toString)).filter fun d => !d.isEmpty).forM checkDirective

end Conform.LogFilter
