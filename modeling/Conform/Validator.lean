import Conform.Numeric
import Conform.Pattern.Parser
import Conform.SchemaError

/-!
Validators: judgements on values whose type is known to be right, each with one message.
-/

namespace Conform

/-- What ends the judging of a document without a verdict. -/
inductive Fault where
  | schema (e : SchemaError)
  /-- Two 128-bit integers without a remainder: zero divides, or -1 divides the least one. -/
  | remainder

inductive Comparison where
  | greaterThan
  | greaterThanOrEqualTo
  | lessThan
  | lessThanOrEqualTo
deriving DecidableEq, Repr

namespace Comparison

def name : Comparison → String
  | greaterThan => "greater_than"
  | greaterThanOrEqualTo => "greater_than_or_equal_to"
  | lessThan => "less_than"
  | lessThanOrEqualTo => "less_than_or_equal_to"

/-- Whether a value in this relation to the bound is accepted. -/
def accepts : Comparison → Ordering → Bool
  | greaterThan, o => o == .gt
  | greaterThanOrEqualTo, o => o != .lt
  | lessThan, o => o == .lt
  | lessThanOrEqualTo, o => o != .gt

/-- What a rejected value is, compared with the bound. -/
def rejection : Comparison → String
  | greaterThan | greaterThanOrEqualTo => "less than"
  | lessThan | lessThanOrEqualTo => "greater than"

end Comparison

inductive Validator where
  | equality (negated : Bool) (expected : Json)
  /-- Compares numbers, and the lengths of what has a length. -/
  | comparison (c : Comparison) (bound : Number)
  | divisibility (negated : Bool) (divisor : Number)
  | membership (accepted : Bool) (values : List Json)
  | matching (pattern : Pattern)
  | allowBlank (allowed : Bool)
  | allowEmpty (allowed : Bool)
  /-- A judgement from outside. -/
  | custom (name message : String) (judge : Json → Except Fault Bool)

namespace Validator

def name : Validator → String
  | equality negated _ => if negated then "not_equal_to" else "equal_to"
  | comparison c _ => c.name
  | divisibility negated _ => if negated then "not_divisible_by" else "divisible_by"
  | membership accepted _ => if accepted then "accepted_values" else "rejected_values"
  | matching _ => "matches"
  | allowBlank _ => "allow_blank"
  | allowEmpty _ => "allow_empty"
  | custom name _ _ => name

/-- The message for a value that is rejected. -/
def message : Validator → String
  | equality negated expected =>
    (if negated then "equal to `" else "not equal to `") ++ expected.display ++ "`"
  | comparison c bound => c.rejection ++ " `" ++ bound.spelling ++ "`"
  | divisibility negated divisor =>
    (if negated then "divisible by `" else "not divisible by `") ++ divisor.spelling ++ "`"
  | membership accepted _ => if accepted then "not an accepted value" else "a rejected value"
  | matching _ => "No matches for Regexp"
  | allowBlank allowed => if allowed then "blank values allowed" else "blank values not allowed"
  | allowEmpty allowed => if allowed then "empty values allowed" else "empty values not allowed"
  | custom _ message _ => message

/-- The characters of blank strings. They are more than Unicode's white space: the Mongolian vowel
separator once was white space and counts here. -/
def isBlank (c : Char) : Bool := Text.isBlank c || c.toNat = 0x180E

/-- The number that a comparison is about: a length, or else the value of a number. -/
def measure? (v : Json) : Option Numeric :=
  match v.length? with
  | some n => some (.int n)
  | none => Numeric.ofJson? v

/-- Whether a value is accepted, or why it cannot be judged. -/
def judge (w : Validator) (v : Json) : Except Fault Bool :=
  let incompatible := Except.error (.schema (.incompatibleValue w.name v.kindName))
  match w with
  | equality negated expected => .ok (v.looseEq expected != negated)
  | comparison c bound =>
    match measure? v with
    | some n => .ok (c.accepts (n.cmp (Numeric.ofNumber bound)))
    | none => incompatible
  | divisibility negated divisor =>
    match Numeric.ofJson? v with
    | none => incompatible
    | some n =>
      match n.isMultipleOf? (Numeric.ofNumber divisor) with
      | some b => .ok (b != negated)
      | none => .error .remainder
  | membership accepted values => .ok (values.any (·.looseEq v) == accepted)
  | matching pattern =>
    match v with
    | .string s => .ok (pattern.isMatch s)
    | _ => incompatible
  | allowBlank allowed =>
    if allowed then .ok true
    else
      match v with
      | .string s => .ok !s.toList.all isBlank
      | v =>
        match v.length? with
        | some n => .ok (n != 0)
        | none => incompatible
  | allowEmpty allowed =>
    if allowed then .ok true
    else
      match v.length? with
      | some n => .ok (n != 0)
      | none => incompatible
  | custom _ _ judge => judge v

/-- The names of the validators that every registry starts with. -/
def builtinNames : List String := [
  "equal_to", "not_equal_to", "greater_than", "greater_than_or_equal_to", "less_than",
  "less_than_or_equal_to", "divisible_by", "not_divisible_by", "accepted_values",
  "rejected_values", "matches", "allow_blank", "allow_empty"]

def required (name : String) (config : Json) : Except SchemaError Json :=
  if config.isNull then .error (.invalidArgument (.missingConfig name)) else .ok config

def numberFor (name : String) (config : Json) : Except SchemaError Number := do
  match ← required name config with
  | .number n => return n
  | v => throw (.invalidArgument (.notNumber name v.kindName))

def divisorFor (name : String) (config : Json) : Except SchemaError Number := do
  let n ← numberFor name config
  if (Numeric.ofNumber n).isZero then throw (.invalidArgument (.zeroDivisor name))
  return n

def itemsOf : Json → Except SchemaError (List Json)
  | .array items => .ok items
  | _ => .error (.invalidArgument .notArray)

def toggleFor (name : String) (config : Json) : Except SchemaError Bool := do
  match ← required name config with
  | .bool b => return b
  | v => throw (.invalidArgument (.notBoolean name v.kindName))

def patternOf : Json → Except SchemaError Pattern
  | .string s => (Pattern.parse s).mapError (.invalidPattern s)
  | v => .error (.typeMismatch .pattern v.kindName)

/-- The builtin validator of a name, configured by a value. -/
def build (name : String) (config : Json) : Except SchemaError Validator :=
  match name with
  | "equal_to" => (required name config).map (equality false)
  | "not_equal_to" => (required name config).map (equality true)
  | "greater_than" => (numberFor name config).map (comparison .greaterThan)
  | "greater_than_or_equal_to" => (numberFor name config).map (comparison .greaterThanOrEqualTo)
  | "less_than" => (numberFor name config).map (comparison .lessThan)
  | "less_than_or_equal_to" => (numberFor name config).map (comparison .lessThanOrEqualTo)
  | "divisible_by" => (divisorFor name config).map (divisibility false)
  | "not_divisible_by" => (divisorFor name config).map (divisibility true)
  | "accepted_values" => (itemsOf config).map (membership true)
  | "rejected_values" => (itemsOf config).map (membership false)
  | "matches" => (patternOf config).map matching
  | "allow_blank" => (toggleFor name config).map allowBlank
  | "allow_empty" => (toggleFor name config).map allowEmpty
  | _ => .error (.unknownValidator name)

end Validator

end Conform
