import Conform.Json.Number
import Conform.Power
import Conform.Text.Hex
import Conform.Yaml.Value

/-!
What plain scalars mean: null, booleans, numbers in four bases, or text.
-/

namespace Conform.Yaml
open Text (hexDigit?)

def isNull (s : String) : Bool := s = "null" || s = "Null" || s = "NULL" || s = "~"

def bool? (s : String) : Option Bool :=
  if s = "true" || s = "True" || s = "TRUE" then some true
  else if s = "false" || s = "False" || s = "FALSE" then some false
  else none

/-- The number that digits of a base spell; there has to be at least one. -/
def digits? (base : Nat) (cs : List Char) : Option Nat :=
  if cs.isEmpty then none
  else
    cs.foldlM (fun n c => (hexDigit? c).bind fun d =>
      if d < base then some (n * base + d) else none) 0

/-- A zero with further digits after it is text. -/
def isPadded : List Char → Bool
  | '-' :: cs | '+' :: cs | cs =>
    match cs with
    | '0' :: c :: cs => (c :: cs).all Char.isDigit
    | _ => false

/-- Digits without a sign, with a letter for the base unless it is ten. -/
def unsigned? : List Char → Option Nat
  | '0' :: 'x' :: cs => digits? 16 cs
  | '0' :: 'o' :: cs => digits? 8 cs
  | '0' :: 'b' :: cs => digits? 2 cs
  | cs => if isPadded cs then none else digits? 10 cs

def integer? : List Char → Option Int
  | '-' :: cs => (unsigned? cs).map fun n => -(n : Int)
  | '+' :: cs => (unsigned? cs).map Int.ofNat
  | cs => (unsigned? cs).map Int.ofNat

/-- Integers that a value can hold. -/
def inRange (i : Int) : Bool := -(pow2 63 : Int) ≤ i && i < pow2 64

/-- Integers too large even to be refused as integers. -/
def isHuge (i : Int) : Bool := i < -(pow2 127 : Int) || (pow2 128 : Int) ≤ i

/-- A power of ten after the letter `e`. -/
def exponent? : List Char → Option Int
  | [] => some 0
  | c :: cs =>
    if c != 'e' && c != 'E' then none
    else
      match cs with
      | '-' :: cs => (digits? 10 cs).map fun n => -(n : Int)
      | '+' :: cs => (digits? 10 cs).map Int.ofNat
      | cs => (digits? 10 cs).map Int.ofNat

/-- Digits with a point before, among or after them, and perhaps an exponent. -/
def decimal? (negative : Bool) (cs : List Char) : Option Binary64 := do
  let (whole, cs) := Digits.split cs
  let (fraction, cs) :=
    match cs with
    | '.' :: cs => Digits.split cs
    | cs => ([], cs)
  if whole.isEmpty && fraction.isEmpty then none
  let e ← exponent? cs
  return Binary64.ofDecimal negative (Digits.value (whole ++ fraction)) (e - fraction.length)

/-- A decimal number, which has to be finite. -/
def finite? (negative : Bool) (cs : List Char) : Option Binary64 :=
  match decimal? negative cs with
  | some (.finite n u) => some (.finite n u)
  | _ => none

def isInfinity (s : String) : Bool := s = ".inf" || s = ".Inf" || s = ".INF"

/-- The double that a text spells, `none` inside for not-a-number. -/
def float? (s : String) : Option (Option Binary64) :=
  if s = ".nan" || s = ".NaN" || s = ".NAN" then some none
  else if isInfinity s then some (some (.infinite false))
  else
    match s.toList with
    | '+' :: cs =>
      if isInfinity (String.ofList cs) then some (some (.infinite false))
      else (finite? false cs).map some
    | '-' :: cs =>
      if isInfinity (String.ofList cs) then some (some (.infinite true))
      else (finite? true cs).map some
    | cs => (finite? false cs).map some

/-- The integer that a text spells. Beyond the integers that a value can hold there is a range
of integers that are refused; still larger ones are no integers. -/
def int? (s : String) : Except Fault (Option Int) :=
  match integer? s.toList with
  | none => .ok none
  | some i =>
    if inRange i then .ok (some i)
    else if isHuge i then .ok none
    else .error (.integerRange s)

/-- What a plain scalar without a tag means. -/
def plainValue (s : String) : Except Fault Value := do
  if s.isEmpty || isNull s then return .null
  match bool? s with
  | some b => return .bool b
  | none =>
    match ← int? s with
    | some i => return .int i
    | none =>
      if isPadded s.toList then return .string s
      else return (float? s).elim (.string s) .float

end Conform.Yaml
