import Conform.Json.Basic
import Conform.Json.Fault
import Conform.Power
import Conform.Record.Basic

/-!
Records written in JSON.
-/

namespace Conform.Json

/-- An object holds fields by name, an array holds them in the order of the names. -/
def recordFields (names : List String) : Json → Except JsonFault (List (String × Json))
  | .object fields => FieldReader.known names fields .duplicateField
  | .array items =>
    if items.length ≤ names.length then .ok (names.zip items)
    else .error (.unexpected "fewer items")
  | _ => .error (.unexpected "a record")

def recordFlag : Json → Except JsonFault Bool
  | .bool b => .ok b
  | _ => .error (.unexpected "a boolean")

/-- A count is spelled with digits alone. -/
def recordSize : Json → Except JsonFault Nat
  | .number n =>
    if n.isIntegral && !n.negative && n.whole < pow2 64 then .ok n.whole
    else .error (.unexpected "a count")
  | _ => .error (.unexpected "a count")

def recordText : Json → Except JsonFault String
  | .string s => .ok s
  | _ => .error (.unexpected "a string")

def recordOptionalText : Json → Except JsonFault (Option String)
  | .null => .ok none
  | v => (recordText v).map some

def fieldReader : FieldReader Json JsonFault where
  fields := recordFields
  flag := recordFlag
  size := recordSize
  text := recordText
  optionalText := recordOptionalText

end Conform.Json
