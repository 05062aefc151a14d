import Conform.Assoc
import Conform.Json.Number

/-!
JSON values. Objects keep their keys in order; equality ignores that order.
-/

namespace Conform

/-- A JSON value; the keys of an object are meant to be distinct. -/
inductive Json where
  | null
  | bool (b : Bool)
  | number (n : Number)
  | string (s : String)
  | array (items : List Json)
  | object (fields : List (String × Json))
deriving Inhabited

namespace Json

mutual

/-- Objects are equal when they hold equal values under the same keys, in any order; numbers
are equal when they are spelled the same. -/
def equal : Json → Json → Bool
  | .null, .null => true
  | .bool a, .bool b => a == b
  | .number a, .number b => a == b
  | .string a, .string b => a == b
  | .array a, .array b => equalItems a b
  | .object a, .object b => a.length == b.length && equalFields a b
  | _, _ => false

def equalItems : List Json → List Json → Bool
  | [], [] => true
  | a :: as, b :: bs => equal a b && equalItems as bs
  | _, _ => false

/-- Every field of the first list is matched by the second. -/
def equalFields : List (String × Json) → List (String × Json) → Bool
  | [], _ => true
  | (k, v) :: rest, other =>
    (match Assoc.lookup k other with
      | some w => equal v w
      | none => false) && equalFields rest other

end

instance : BEq Json := ⟨equal⟩

/-- What a value is called in messages. -/
def kindName : Json → String
  | .null => "null"
  | .bool _ => "a boolean"
  | .number n => if n.isIntegral then "an integer" else "a float"
  | .string _ => "a string"
  | .array _ => "an array"
  | .object _ => "an object"

def isNull : Json → Bool
  | .null => true
  | _ => false

/-- An integer is a number spelled without fraction and exponent, whatever its value. -/
def isInteger : Json → Bool
  | .number n => n.isIntegral
  | _ => false

def isFloat : Json → Bool
  | .number n => !n.isIntegral
  | _ => false

/-- Characters of a string, items of an array, entries of an object. -/
def length? : Json → Option Nat
  | .string s => some s.length
  | .array items => some items.length
  | .object fields => some fields.length
  | _ => none

end Json

end Conform
