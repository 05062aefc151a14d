import Conform.Binary64
import Conform.Yaml.Fault

/-!
Values of YAML documents.
-/

namespace Conform.Yaml

inductive Value where
  | null
  | bool (b : Bool)
  | int (i : Int)
  /-- A double; `none` is the one that is not a number. -/
  | float (x : Option Binary64)
  | string (s : String)
  | sequence (items : List Value)
  | mapping (entries : List (Value × Value))
  | tagged (tag : String) (v : Value)

namespace Value

/-- Both zeros are equal, and not-a-number equals itself. -/
def floatEqual : Option Binary64 → Option Binary64 → Bool
  | some a, some b => a.cmp b == .eq
  | none, none => true
  | _, _ => false

mutual

/-- Mappings are equal when they hold equal values under equal keys, in any order. -/
def equal : Value → Value → Bool
  | .null, .null => true
  | .bool a, .bool b => a == b
  | .int a, .int b => a == b
  | .float a, .float b => floatEqual a b
  | .string a, .string b => a == b
  | .sequence a, .sequence b => equalItems a b
  | .mapping a, .mapping b => a.length == b.length && equalEntries a b
  | .tagged s a, .tagged t b => s == t && equal a b
  | _, _ => false

def equalItems : List Value → List Value → Bool
  | [], [] => true
  | a :: as, b :: bs => equal a b && equalItems as bs
  | _, _ => false

/-- Every entry of the first list is among the second. -/
def equalEntries : List (Value × Value) → List (Value × Value) → Bool
  | [], _ => true
  | (k, v) :: rest, other =>
    other.any (fun e => equal k e.1 && equal v e.2) && equalEntries rest other

end

instance : BEq Value := ⟨equal⟩

end Value

end Conform.Yaml
