import Conform.Power
import Conform.Record.Basic
import Conform.Yaml.Document
import Conform.Yaml.Scalar.Meaning

/-!
Records written in YAML.
-/

namespace Conform.Yaml.Document

/-- The entries of a mapping by the texts of their keys. -/
def textEntries (d : Document) :
    List (Node Nat × Node Nat) → Except Fault (List (String × Node Nat))
  | [] => .ok []
  | (k, v) :: rest =>
    match d.resolve k with
    | .scalar _ name _ => do return (name, v) :: (← d.textEntries rest)
    | _ => .error (.unexpected "a field name")

/-- Nothing at all is a record without fields. -/
def recordFields (d : Document) (names : List String) (n : Node Nat) :
    Except Fault (List (String × Node Nat)) :=
  match d.resolve n with
  | .mapping _ entries => do
    FieldReader.known names (← d.textEntries entries) .duplicateField
  | .scalar _ "" .plain => .ok []
  | _ => .error (.unexpected "a record")

/-- Only plain scalars, and blocks of lines with the right tag, are more than text. -/
def bareText (d : Document) (tag expected : String) (n : Node Nat) : Except Fault String :=
  match d.resolve n with
  | .scalar _ text .plain => .ok text
  | .scalar p text .literal =>
    if p.tag = some tag then .ok text else .error (.unexpected expected)
  | _ => .error (.unexpected expected)

def recordFlag (d : Document) (n : Node Nat) : Except Fault Bool := do
  let text ← d.bareText "tag:yaml.org,2002:bool" "a boolean" n
  (bool? text).elim (.error (.unexpected "a boolean")) .ok

/-- A number without a minus sign, in any of the four bases. -/
def size? (text : String) : Option Nat := do
  let n ← match text.toList with
    | '+' :: cs => unsigned? cs
    | cs => unsigned? cs
  if n < pow2 64 then some n else none

def recordSize (d : Document) (n : Node Nat) : Except Fault Nat := do
  let text ← d.bareText "tag:yaml.org,2002:int" "a count" n
  (size? text).elim (.error (.unexpected "a count")) .ok

def recordText (d : Document) (n : Node Nat) : Except Fault String :=
  match d.resolve n with
  | .scalar _ text _ => .ok text
  | _ => .error (.unexpected "a string")

/-- Whether a scalar stands for a text or for the lack of one. -/
def holdsText (tag : Option String) (text : String) (style : Style) : Except Fault Bool :=
  if style ≠ .plain then .ok true
  else
    match tag with
    | some "tag:yaml.org,2002:null" =>
      if isNull text then .ok false else .error (.mistagged text "null")
    | some _ => .ok true
    | none => .ok (!text.isEmpty && !isNull text)

def recordOptionalText (d : Document) (n : Node Nat) : Except Fault (Option String) :=
  match d.resolve n with
  | .scalar p text style => do
    return if ← holdsText p.tag text style then some text else none
  | _ => .error (.unexpected "a string")

def fieldReader (d : Document) : FieldReader (Node Nat) Fault where
  fields := d.recordFields
  flag := d.recordFlag
  size := d.recordSize
  text := d.recordText
  optionalText := d.recordOptionalText

end Conform.Yaml.Document
