import Conform.Json.Printer
import Conform.Power

/-!
Reports on documents that do not conform: messages under field names, element indices, or `base`
for a container itself.
-/

namespace Conform

/-- The errors of one field or element: messages of a leaf, or the entries of a container. -/
inductive FieldErrors where
  | messages (ms : List String)
  | nested (entries : List (String × FieldErrors))
deriving Inhabited

/-- The errors of a container, in the order they were found. -/
abbrev ErrorMap := List (String × FieldErrors)

/-- A message and the place it is about. -/
structure Violation where
  path : String
  message : String
deriving DecidableEq, Repr

def Violation.render (v : Violation) : String := v.path ++ ": " ++ v.message

namespace FieldErrors

def none : FieldErrors := messages []

def message (m : String) : FieldErrors := messages [m]

def isEmpty : FieldErrors → Bool
  | messages ms => ms.isEmpty
  | nested entries => entries.isEmpty

def messages? : FieldErrors → Option (List String)
  | messages ms => some ms
  | nested _ => .none

def nested? : FieldErrors → Option ErrorMap
  | messages _ => .none
  | nested entries => some entries

mutual

/-- Message lists as arrays, containers as objects, entry for entry. -/
def encode : FieldErrors → Json
  | messages ms => .array (ms.map .string)
  | nested entries => .object (encodeEntries entries)

def encodeEntries : List (String × FieldErrors) → List (String × Json)
  | [] => []
  | (key, errors) :: rest => (key, errors.encode) :: encodeEntries rest

end

mutual

/-- Message lists as arrays, containers as objects into which the entries are stored. -/
def toJson : FieldErrors → Json
  | messages ms => .array (ms.map .string)
  | nested entries => .object (storeEntries [] entries)

def storeEntries (fields : List (String × Json)) : List (String × FieldErrors) →
    List (String × Json)
  | [] => fields
  | (key, errors) :: rest => storeEntries (Assoc.store key errors.toJson fields) rest

end

end FieldErrors

/-- The key for errors of a container itself. -/
def baseKey : String := "base"

/-- Whether a key is an index: digits, perhaps after a plus sign, that fit 64 bits. -/
def isIndex (key : String) : Bool :=
  let digits :=
    match key.toList with
    | '+' :: cs => cs
    | cs => cs
  !digits.isEmpty && digits.all Char.isDigit && Nat.ofDigitChars 10 digits 0 < pow2 64

/-- The path of the place under a key. -/
def childPath (path key : String) : String :=
  if key = baseKey then path
  else if isIndex key then path ++ "[" ++ key ++ "]"
  else path ++ "." ++ key

mutual

def FieldErrors.violations (path : String) : FieldErrors → List Violation
  | .messages ms => ms.map fun m => ⟨path, m⟩
  | .nested entries => entryViolations path entries

/-- One violation a message, in order. -/
def entryViolations (path : String) : List (String × FieldErrors) → List Violation
  | [] => []
  | (key, errors) :: rest =>
    errors.violations (childPath path key) ++ entryViolations path rest

end

namespace ErrorMap

def empty : ErrorMap := []

/-- A map that holds one message about the container itself. -/
def withBase (message : String) : ErrorMap := [(baseKey, .message message)]

/-- Adds a message about the container itself, once. -/
def addBase (message : String) (m : ErrorMap) : ErrorMap :=
  match Assoc.lookup baseKey m with
  | some (.messages ms) =>
    if ms.contains message then m else Assoc.store baseKey (.messages (ms ++ [message])) m
  | _ => Assoc.store baseKey (.message message) m

/-- Records errors under a key, in place of those that are there; no errors leave no entry. -/
def insert (key : String) (errors : FieldErrors) (m : ErrorMap) : ErrorMap :=
  if errors.isEmpty then m else Assoc.store key errors m

def get? (key : String) (m : ErrorMap) : Option FieldErrors := Assoc.lookup key m

def messages? (key : String) (m : ErrorMap) : Option (List String) :=
  (m.get? key).bind FieldErrors.messages?

def nested? (key : String) (m : ErrorMap) : Option ErrorMap :=
  (m.get? key).bind FieldErrors.nested?

def base? (m : ErrorMap) : Option (List String) := m.messages? baseKey

/-- The map entry for entry. -/
def encode (m : ErrorMap) : Json := (FieldErrors.nested m).encode

/-- The map as an object that its entries are stored into. -/
def toJson (m : ErrorMap) : Json := (FieldErrors.nested m).toJson

/-- All messages with paths such as `$.name[0]`. -/
def violations (m : ErrorMap) : List Violation := entryViolations "$" m

end ErrorMap

/-- The messages that are not a validator's. -/
inductive Message where
  | wrongType
  | required
  | nilNotAllowed
  | duplicateItems
  | undeclaredKeys
  | tooFew (least actual : Nat)
  | tooMany (most actual : Nat)

def Message.text : Message → String
  | wrongType => "wrong type"
  | required => "required"
  | nilNotAllowed => "nil object not allowed"
  | duplicateItems => "duplicate items are not allowed"
  | undeclaredKeys => "has properties not defined in schema"
  | tooFew least actual =>
    "expected at least " ++ toString least ++ " item(s) but got " ++ toString actual ++ " item(s)"
  | tooMany most actual =>
    "expected at most " ++ toString most ++ " item(s) but got " ++ toString actual ++ " item(s)"

/-- The message about a leaf. -/
def Message.field (m : Message) : FieldErrors := .message m.text

/-- The message about a container. -/
def Message.errors (m : Message) : ErrorMap := ErrorMap.withBase m.text

end Conform
