import Conform.ErrorMap
import Conform.Validator

/-!
Properties: what one value has to be. Leaves test a type and run validators; hashes and arrays
hold further properties.
-/

namespace Conform

/-- Which values a leaf takes. -/
inductive TypeTest where
  | string
  | integer
  | float
  | number
  | boolean
  | null
  | custom (accepts : Json → Bool)

def TypeTest.accepts : TypeTest → Json → Bool
  | string, .string _ => true
  | integer, v => v.isInteger
  | float, v => v.isFloat
  | number, .number _ => true
  | boolean, .bool _ => true
  | null, v => v.isNull
  | custom accepts, v => accepts v
  | _, _ => false

structure Leaf where
  kind : String
  test : TypeTest
  required : Bool
  allowNil : Bool
  validators : List Validator

/-- How the elements of an array are described. -/
inductive ArrayMode (P : Type) where
  | unset
  /-- Every element conforms to one property. -/
  | single (element : P)
  /-- Each position has its own property; the optional ones may be missing at the end. -/
  | tuple (required optional : List P)

structure ArraySchema (P : Type) where
  mode : ArrayMode P
  unique : Bool
  minSize : Option Nat
  maxSize : Option Nat
  required : Bool
  allowNil : Bool

structure HashSchema (P : Type) where
  properties : List (String × P)
  /-- Keys that are not declared are refused. -/
  strict : Bool
  required : Bool
  allowNil : Bool

inductive Property where
  | leaf (l : Leaf)
  | hash (h : HashSchema Property)
  | array (a : ArraySchema Property)

/-- The kinds of the two containers. -/
def hashKind : String := "nested_hash"

def arrayKind : String := "array"

namespace Leaf

/-- A leaf that is required and refuses null. -/
def new (kind : String) (test : TypeTest) : Leaf := ⟨kind, test, true, false, []⟩

def validator? (name : String) (l : Leaf) : Option Validator :=
  l.validators.find? fun v => v.name == name

/-- Adds a validator whose name is new. -/
def addValidator (v : Validator) (l : Leaf) : Except SchemaError Leaf :=
  if (l.validator? v.name).isSome then .error (.validatorAlreadyDefined v.name)
  else .ok { l with validators := l.validators ++ [v] }

/-- Runs all validators in order and collects the messages of those that reject, each once. -/
def runValidators (value : Json) : List Validator → List String → Except Fault (List String)
  | [], messages => .ok messages
  | v :: rest, messages => do
    if ← v.judge value then runValidators value rest messages
    else if messages.contains v.message then runValidators value rest messages
    else runValidators value rest (messages ++ [v.message])

/-- Null and values of another type are settled before any validator runs. -/
def check (l : Leaf) (value : Json) : Except Fault FieldErrors :=
  if value.isNull then
    if l.allowNil || l.test.accepts value then .ok .none
    else .ok Message.nilNotAllowed.field
  else if l.test.accepts value then (runValidators value l.validators []).map .messages
  else .ok Message.wrongType.field

end Leaf

namespace ArrayMode
variable {P : Type}

/-- The bounds that tuples put on the length, or else those of the schema. -/
def bounds (mode : ArrayMode P) (minSize maxSize : Option Nat) : Option Nat × Option Nat :=
  match mode with
  | tuple required optional => (some required.length, some (required.length + optional.length))
  | _ => (minSize, maxSize)

end ArrayMode

/-- The message about a length out of bounds; the lower bound goes first. -/
def sizeErrors (length : Nat) (minSize maxSize : Option Nat) : ErrorMap :=
  let tooMany :=
    match maxSize with
    | some most => if most < length then (Message.tooMany most length).errors else []
    | none => []
  match minSize with
  | some least =>
    if length < least then (Message.tooFew least length).errors else tooMany
  | none => tooMany

/-- Two positions hold equal values. -/
def hasDuplicates : List Json → Bool
  | [] => false
  | v :: rest => rest.any (v == ·) || hasDuplicates rest

/-- The errors of an array that concern the array itself. -/
def containerErrors {P : Type} (a : ArraySchema P) (items : List Json) : ErrorMap :=
  if a.unique && hasDuplicates items then Message.duplicateItems.errors
  else
    let (least, most) := a.mode.bounds a.minSize a.maxSize
    sizeErrors items.length least most

/-- A container's errors as those of a field. -/
def FieldErrors.ofMap (m : ErrorMap) : FieldErrors := if m.isEmpty then .none else .nested m

namespace Property

def kind : Property → String
  | leaf l => l.kind
  | hash _ => hashKind
  | array _ => arrayKind

def isRequired : Property → Bool
  | leaf l => l.required
  | hash h => h.required
  | array a => a.required

def allowsNil : Property → Bool
  | leaf l => l.allowNil
  | hash h => h.allowNil
  | array a => a.allowNil

/-- The errors of a required property whose key is absent. -/
def missing : Property → FieldErrors
  | leaf _ => Message.required.field
  | _ => .nested Message.required.errors

/-- What a container says of null and of values of another type. -/
def refusal (allowNil : Bool) (value : Json) : ErrorMap :=
  if value.isNull then
    if allowNil then [] else Message.nilNotAllowed.errors
  else Message.wrongType.errors

/-- Goes through the elements from an index on, up to the first that fails. -/
def firstFailure (check : Json → Except Fault FieldErrors) :
    Nat → List Json → Except Fault ErrorMap
  | _, [] => .ok []
  | index, value :: values => do
    let found ← check value
    if found.isEmpty then firstFailure check (index + 1) values
    else return [(toString index, found)]

mutual

/-- The errors of a value, or what prevents a verdict. -/
def check : Property → Json → Except Fault FieldErrors
  | .leaf l, value => l.check value
  | .hash h, value => (hashErrors h value).map .ofMap
  | .array a, value => (arrayErrors a value).map .ofMap

/-- An undeclared key in a strict hash hides all other errors. -/
def hashErrors : HashSchema Property → Json → Except Fault ErrorMap
  | ⟨properties, strict, _, allowNil⟩, value =>
    match value with
    | .object fields =>
      if strict && fields.any (fun field => !Assoc.contains field.1 properties) then
        .ok Message.undeclaredKeys.errors
      else checkFields fields properties []
    | value => .ok (refusal allowNil value)

/-- The elements are looked at only when nothing is wrong with the array itself. -/
def arrayErrors : ArraySchema Property → Json → Except Fault ErrorMap
  | ⟨mode, unique, minSize, maxSize, required, allowNil⟩, value =>
    match value with
    | .array items =>
      let errors := containerErrors ⟨mode, unique, minSize, maxSize, required, allowNil⟩ items
      if !errors.isEmpty then .ok errors
      else
        match mode with
        | .unset => .ok []
        | .single element => firstFailure (fun v => element.check v) 0 items
        | .tuple required optional => do
          let errors ← checkPositions 0 required items
          if errors.isEmpty then
            checkPositions required.length optional (items.drop required.length)
          else return errors
    | value => .ok (refusal allowNil value)

/-- Goes through the declared properties and adds the errors of each. -/
def checkFields (fields : List (String × Json)) :
    List (String × Property) → ErrorMap → Except Fault ErrorMap
  | [], errors => .ok errors
  | (name, property) :: rest, errors => do
    match Assoc.lookup name fields with
    | some value =>
      let found ← property.check value
      checkFields fields rest (errors.insert name found)
    | none =>
      if property.isRequired then checkFields fields rest (errors.insert name property.missing)
      else checkFields fields rest errors

/-- Goes through positions, each with its own property, up to the first that fails. -/
def checkPositions (index : Nat) : List Property → List Json → Except Fault ErrorMap
  | property :: properties, value :: values => do
    let found ← property.check value
    if found.isEmpty then checkPositions (index + 1) properties values
    else return [(toString index, found)]
  | _, _ => .ok []

end

end Property

/-- A schema for whole documents: one of the containers. -/
inductive Schema where
  | hash (h : HashSchema Property)
  | array (a : ArraySchema Property)

namespace Schema

def toProperty : Schema → Property
  | hash h => .hash h
  | array a => .array a

def kind (s : Schema) : String := s.toProperty.kind

/-- The errors of a document; a document conforms when there are none. -/
def validate : Schema → Json → Except Fault ErrorMap
  | hash h, document => Property.hashErrors h document
  | array a, document => Property.arrayErrors a document

end Schema

end Conform
