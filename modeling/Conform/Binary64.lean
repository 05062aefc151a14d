import Conform.Json.Number
import Conform.Power

/-!
Double precision numbers, exactly: every finite one is a whole number of units of 2^-1074, the
least positive double, so comparing and dividing them is arithmetic on integers.
-/

namespace Conform

/-- A double other than the NaNs. -/
inductive Binary64 where
  | finite (negative : Bool) (units : Nat)
  | infinite (negative : Bool)
deriving DecidableEq, Repr

namespace Binary64

/-- The largest finite double is just below this many units. -/
def overflow : Nat := pow2 2098

/-- The quotient rounded to the nearest natural number, a half going to the even one. -/
def roundDiv (num den : Nat) : Nat :=
  let q := num / den
  let r := num % den
  if 2 * r < den then q
  else if den < 2 * r then q + 1
  else q + q % 2

/-- The quotient rounded to 53 significant bits. -/
def roundUnits (num den : Nat) : Nat :=
  let k := (num / den).log2 - 52
  roundDiv num (den * pow2 k) * pow2 k

/-- The double nearest to a quotient of units. -/
def ofUnits (negative : Bool) (num den : Nat) : Binary64 :=
  let units := roundUnits num den
  if units < overflow then finite negative units else infinite negative

def ofInt (i : Int) : Binary64 := ofUnits (decide (i < 0)) (i.natAbs * pow2 1074) 1

/-- The double nearest to ± `m` · 10^`e`. Powers of ten far outside the range of doubles are not
computed: `m` has `d` digits, so the value lies between 10^(d + e - 1) and 10^(d + e). -/
def ofDecimal (negative : Bool) (m : Nat) (e : Int) : Binary64 :=
  let d : Int := (Nat.toDigits 10 m).length
  if m = 0 ∨ d + e < -330 then finite negative 0
  else if 330 < d + e then infinite negative
  else ofUnits negative (m * pow10 e.toNat * pow2 1074) (pow10 (-e).toNat)

/-- The double nearest to a written number. -/
def ofNumber (n : Number) : Binary64 :=
  let fraction := (n.fraction.map Digits.toList).getD []
  let shift : Int :=
    match n.exponent with
    | none => 0
    | some e => if e.negative then -(Digits.value e.digits.toList : Int)
        else Digits.value e.digits.toList
  let m := fraction.foldl (fun m d => 10 * m + d.val) n.whole
  ofDecimal n.negative m (shift - fraction.length)

/-- Both zeros are the same number. -/
def cmp : Binary64 → Binary64 → Ordering
  | infinite a, infinite b => compare b.toNat a.toNat
  | infinite a, finite .. => if a then .lt else .gt
  | finite .., infinite b => if b then .gt else .lt
  | finite a m, finite b n =>
    compare (if a then -(m : Int) else (m : Int)) (if b then -(n : Int) else (n : Int))

def isZero : Binary64 → Bool
  | finite _ units => units == 0
  | infinite _ => false

/-- Whether the remainder of a division is zero. An infinite number has no remainder, nor has
any number divided by zero; a finite one is its own remainder by an infinite one. -/
def isMultipleOf : Binary64 → Binary64 → Bool
  | infinite _, _ => false
  | finite _ m, infinite _ => m == 0
  | finite _ m, finite _ n => n != 0 && m % n == 0

/-- The sign, the biased exponent and the fraction, packed into 64 bits. -/
def toBits (x : Binary64) : Nat :=
  let pack (negative : Bool) (magnitude : Nat) := (if negative then pow2 63 else 0) + magnitude
  match x with
  | infinite negative => pack negative (0x7FF * pow2 52)
  | finite negative units =>
    if units < pow2 52 then pack negative units
    else
      let k := units.log2 - 52
      pack negative (k * pow2 52 + units / pow2 k)

end Binary64

end Conform
