import Conform.Json.Basic
import Conform.Json.Double
import Conform.Yaml.Value

/-!
YAML values as JSON.
-/

namespace Conform.Yaml.Value

/-- The number that JSON spells for a double, if it spells one. -/
def number? (x : Option Binary64) : Option Number := x.bind Number.ofBinary64?

/-- The text of a key; collections, null and infinite or undefined numbers are no keys of JSON
objects. -/
def key? : Value → Option String
  | .string s => some s
  | .bool b => some (if b then "true" else "false")
  | .int i => some (Number.ofInt i).spelling
  | .float x => (number? x).map Number.spelling
  | _ => none

mutual

/-- The JSON value, if every key has a text. Keys with one text become one, in the first place and
with the last value. Infinite and undefined numbers become null. -/
def toJson? : Value → Option Json
  | .null => some .null
  | .bool b => some (.bool b)
  | .int i => some (.number (.ofInt i))
  | .float x => some ((number? x).elim .null .number)
  | .string s => some (.string s)
  | .sequence items => (itemsToJson? items).map .array
  | .mapping entries => (entriesToJson? [] entries).map .object
  | .tagged tag v => (toJson? v).map fun v => .object [(tag, v)]

def itemsToJson? : List Value → Option (List Json)
  | [] => some []
  | v :: rest => do
    let v ← toJson? v
    return v :: (← itemsToJson? rest)

def entriesToJson? (done : List (String × Json)) :
    List (Value × Value) → Option (List (String × Json))
  | [] => some done
  | (k, v) :: rest => do
    let v ← toJson? v
    entriesToJson? (Assoc.store (← key? k) v done) rest

end

end Conform.Yaml.Value
