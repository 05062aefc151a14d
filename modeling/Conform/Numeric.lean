import Conform.Binary64
import Conform.Json.Basic
import Conform.Power

/-!
The value of a JSON number: exact when it is written as an integer of at most 128 bits, a double
otherwise.
-/

namespace Conform

inductive Numeric where
  | int (i : Int)
  | float (x : Binary64)
deriving DecidableEq, Repr

namespace Numeric

def minInt : Int := -(pow2 127 : Int)

def maxInt : Int := (pow2 127 : Int) - 1

def ofNumber (n : Number) : Numeric :=
  if n.isIntegral ∧ minInt ≤ n.integer ∧ n.integer ≤ maxInt then int n.integer
  else float (Binary64.ofNumber n)

def ofJson? : Json → Option Numeric
  | .number n => some (ofNumber n)
  | _ => none

def toBinary64 : Numeric → Binary64
  | int i => Binary64.ofInt i
  | float x => x

/-- Two integers compare exactly, any other pair as doubles. -/
def cmp : Numeric → Numeric → Ordering
  | int a, int b => compare a b
  | a, b => a.toBinary64.cmp b.toBinary64

def isZero : Numeric → Bool
  | int i => i == 0
  | float x => x.isZero

/-- Whether the remainder of a division is zero; none where 128-bit integers have no remainder:
by zero, and of the least one by -1. -/
def isMultipleOf? : Numeric → Numeric → Option Bool
  | int a, int b => if b = 0 ∨ (a = minInt ∧ b = -1) then none else some (a.tmod b == 0)
  | a, b => some (a.toBinary64.isMultipleOf b.toBinary64)

end Numeric

namespace Json

/-- Equality of values up to the spelling of a number; numbers inside containers keep theirs. -/
def looseEq : Json → Json → Bool
  | .number a, .number b => (Numeric.ofNumber a).cmp (Numeric.ofNumber b) == .eq
  | a, b => a == b

end Json

end Conform
