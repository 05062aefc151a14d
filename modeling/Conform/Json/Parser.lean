import Conform.Json.Token

/-!
JSON texts read as values: a machine over tokens that keeps the open containers on a stack.
-/

namespace Conform.Json

/-- A container part way through, with what it holds so far last first. -/
inductive Frame where
  | array (done : List Json)
  | object (done : List (String × Json)) (key : String)

/-- What the reader waits for. -/
inductive Reader where
  | value (stack : List Frame)
  | firstItem (stack : List Frame)
  | firstKey (stack : List Frame)
  | key (done : List (String × Json)) (stack : List Frame)
  | colon (done : List (String × Json)) (key : String) (stack : List Frame)
  /-- A value is complete. -/
  | after (v : Json) (stack : List Frame)

namespace Reader

/-- Containers nest at most this deep. -/
def maxDepth : Nat := 127

/-- The start of a value inside the given containers. -/
def start (stack : List Frame) : Token → Option Reader
  | .null => some (after .null stack)
  | .bool b => some (after (.bool b) stack)
  | .number n => some (after (.number n) stack)
  | .string s => some (after (.string s) stack)
  | .leftBracket => if stack.length < maxDepth then some (firstItem stack) else none
  | .leftBrace => if stack.length < maxDepth then some (firstKey stack) else none
  | _ => none

def step : Reader → Token → Option Reader
  | value stack, t => start stack t
  | firstItem stack, t =>
    match t with
    | .rightBracket => some (after (.array []) stack)
    | t => start (.array [] :: stack) t
  | firstKey stack, t =>
    match t with
    | .rightBrace => some (after (.object []) stack)
    | .string k => some (colon [] k stack)
    | _ => none
  | key done stack, t =>
    match t with
    | .string k => some (colon done k stack)
    | _ => none
  | colon done k stack, t =>
    match t with
    | .colon => some (value (.object done k :: stack))
    | _ => none
  | after v (.array done :: stack), t =>
    match t with
    | .comma => some (value (.array (v :: done) :: stack))
    | .rightBracket => some (after (.array (v :: done).reverse) stack)
    | _ => none
  | after v (.object done k :: stack), t =>
    match t with
    | .comma => some (key ((k, v) :: done) stack)
    | .rightBrace => some (after (.object ((k, v) :: done).reverse) stack)
    | _ => none
  | after _ [], _ => none

def run (r : Reader) : List Token → Option Json
  | [] =>
    match r with
    | after v [] => some v
    | _ => none
  | t :: ts => do (← r.step t).run ts

end Reader

/-- The value a text spells, with repeated keys still in place. -/
def read? (s : String) : Option Json := do (Reader.value []).run (← Token.scan s)

/-- An object that begins with this key stands for a number. -/
def numberKey : String := "$serde_json::private::Number"

def isReserved : List (String × Json) → Bool
  | [] => false
  | (key, _) :: _ => key = numberKey

/-- The number that an object stands for, which has to hold its spelling and nothing else. -/
def spelledNumber? : List (String × Json) → Option Number
  | [(_, .string s)] => Number.ofChars? s.toList
  | _ => none

mutual

/-- Numbers in place of the objects that stand for them. -/
def unwrap? : Json → Option Json
  | .array items => (unwrapItems? items).map .array
  | .object fields =>
    match isReserved fields with
    | true => (spelledNumber? fields).map .number
    | false => (unwrapFields? fields).map .object
  | v => some v

def unwrapItems? : List Json → Option (List Json)
  | [] => some []
  | v :: rest => do
    let v ← unwrap? v
    return v :: (← unwrapItems? rest)

def unwrapFields? : List (String × Json) → Option (List (String × Json))
  | [] => some []
  | (key, v) :: rest => do
    let v ← unwrap? v
    return (key, v) :: (← unwrapFields? rest)

end

mutual

/-- A repeated key keeps its first place and its last value. -/
def mergeKeys : Json → Json
  | .array items => .array (mergeItems items)
  | .object fields => .object (mergeFields [] fields)
  | v => v

def mergeItems : List Json → List Json
  | [] => []
  | v :: rest => mergeKeys v :: mergeItems rest

def mergeFields (acc : List (String × Json)) : List (String × Json) → List (String × Json)
  | [] => acc
  | (k, v) :: rest => mergeFields (Assoc.store k (mergeKeys v) acc) rest

end

/-- The value a text spells. -/
def parse? (s : String) : Option Json := ((read? s).bind unwrap?).map mergeKeys

end Conform.Json
