import Conform.Yaml.Document
import Conform.Yaml.Scalar.Meaning

/-!
Documents as values.
-/

namespace Conform.Yaml

/-- How a local tag is shown: an exclamation mark and a name. -/
def localTag? (tag : String) : Option String :=
  match tag.toList with
  | ['!'] => some "!!"
  | ['!', '!'] => some "!!"
  | '!' :: '!' :: name => some (String.ofList ('!' :: name))
  | '!' :: name => some (String.ofList ('!' :: name))
  | _ => none

/-- The value of a scalar without a tag. Quoted ones are text. -/
def untagged (text : String) (style : Style) : Except Fault Value :=
  if style = .plain then plainValue text else .ok (.string text)

/-- The value of a scalar with a global tag. Tags of no known type make it text. -/
def globallyTagged (tag text : String) : Except Fault Value :=
  if tag = "tag:yaml.org,2002:bool" then
    (bool? text).elim (.error (.mistagged text "a boolean")) fun b => .ok (.bool b)
  else if tag = "tag:yaml.org,2002:int" then do
    (← int? text).elim (.error (.mistagged text "an integer")) fun i => .ok (.int i)
  else if tag = "tag:yaml.org,2002:float" then
    (float? text).elim (.error (.mistagged text "a float")) fun x => .ok (.float x)
  else if tag = "tag:yaml.org,2002:null" then
    if isNull text then .ok .null else .error (.mistagged text "null")
  else .ok (.string text)

def scalarValue (tag : Option String) (text : String) (style : Style) : Except Fault Value :=
  match tag with
  | none => untagged text style
  | some tag =>
    match localTag? tag with
    | some name => (untagged text style).map (.tagged name)
    | none => globallyTagged tag text

/-- Puts a collection under its local tag; other tags of collections say nothing. -/
def underTag (tag : Option String) (v : Value) : Value :=
  match tag.bind localTag? with
  | some name => .tagged name v
  | none => v

namespace Document

/-- Collections nest at most this deep, aliases followed. -/
def maxDepth : Nat := 128

/-- The node that a node stands for, and one alias fewer that may be followed. -/
def follow (d : Document) : Node Nat → StateT Nat (Except Fault) (Node Nat)
  | .alias n => do
    match ← get with
    | 0 => throw .repetition
    | left + 1 =>
      set left
      return d.resolve (.alias n)
  | n => pure n

/-- The value of a node with at most so many collections inside each other. -/
def valueAt (d : Document) : Nat → Node Nat → StateT Nat (Except Fault) Value
  | 0, n => do
    match ← d.follow n with
    | .scalar p text style => scalarValue p.tag text style
    | _ => throw .depth
  | depth + 1, n => do
    match ← d.follow n with
    | .alias _ => return .null
    | .scalar p text style => scalarValue p.tag text style
    | .sequence p items => return underTag p.tag (.sequence (← items.mapM (d.valueAt depth)))
    | .mapping p entries =>
      let done ← entries.foldlM
        (fun done (k, v) => do
          let k ← d.valueAt depth k
          if done.any (·.1 == k) then throw .duplicateKey
          return (k, ← d.valueAt depth v) :: done)
        []
      return underTag p.tag (.mapping done.reverse)

/-- The value of a document. It may follow a hundred aliases for each beginning and end of a
node. -/
def value (d : Document) : Except Fault Value := do
  let (v, _) ← (d.valueAt maxDepth d.root).run (100 * d.root.extent)
  return v

end Document

namespace Value

/-- The values of a text's documents, up to the first that has none. -/
def readAll (text : String) : List (Except Fault Value) :=
  (Document.readAll text).map fun d => d.bind Document.value

/-- The value of a text's only document. -/
def read (text : String) : Except Fault Value := do (← Document.read text).value

end Value

end Conform.Yaml
