import Conform.Binary64

/-!
The fewest decimal digits that read back to a double.
-/

namespace Conform.Binary64

/-- The decimal exponent just above a positive number of units: with `s` for it, the number lies
between 10^(s - 1) and 10^s. Scaling by 10^340 makes every unit count a natural number. -/
def scale (units : Nat) : Int := (Nat.toDigits 10 (units * pow10 340 / pow2 1074)).length - 340

/-- A number of units divided by 10^`e`, as a fraction. -/
def onGrid (units : Nat) (e : Int) : Nat × Nat :=
  (units * pow10 (-e).toNat, pow2 1074 * pow10 e.toNat)

/-- The multiple of 10^`e` nearest to a number of units among the two neighbours that read back
to it; of two equally near ones, the even one. -/
def nearest? (units : Nat) (e : Int) : Option Nat :=
  let (num, den) := onGrid units e
  let low := num / den
  let readsBack (m : Nat) : Bool := ofDecimal false m e == finite false units
  match readsBack low, readsBack (low + 1) with
  | true, true => some (roundDiv num den)
  | true, false => some low
  | false, true => some (low + 1)
  | false, false => none

/-- Searches grids from coarse to fine, `fuel` of them; the last one is taken as it is. -/
def search (units : Nat) (e : Int) : Nat → Nat × Int
  | 0 => let (num, den) := onGrid units e; (roundDiv num den, e)
  | fuel + 1 =>
    match nearest? units e with
    | some m => (m, e)
    | none => search units (e - 1) fuel

/-- The shortest decimal `m` · 10^`e` that reads back to a positive number of units. Seventeen
digits are always enough. -/
def shortest (units : Nat) : Nat × Int := search units (scale units - 1) 16

end Conform.Binary64
