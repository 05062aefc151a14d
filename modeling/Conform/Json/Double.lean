import Conform.Binary64.Shortest
import Conform.Json.Number

/-!
Doubles written as JSON numbers.
-/

namespace Conform.Number

/-- Digits laid out with the first one standing for a multiple of 10^`x`. From 10^-5 up to 10^15
the layout is positional and has at least one digit after the point; beyond, the first digit
stands alone before the point and the exponent follows. -/
def layout (negative : Bool) (digits : List (Fin 10)) (x : Int) : Number :=
  if 0 ≤ x ∧ x ≤ 15 then
    let n := x.toNat + 1
    let whole := digits.take n ++ List.replicate (n - digits.length) Digits.zero
    ⟨negative, Digits.value whole,
      some ((Digits.ofList? (digits.drop n)).getD ⟨Digits.zero, []⟩), none⟩
  else if -5 ≤ x ∧ x < 0 then
    ⟨negative, 0, Digits.ofList? (List.replicate (-x - 1).toNat Digits.zero ++ digits), none⟩
  else
    let exponent := Digits.ofList? (Digits.split (Nat.toDigits 10 x.natAbs)).1
    ⟨negative, Digits.value (digits.take 1), Digits.ofList? (digits.drop 1),
      exponent.map fun d => ⟨decide (x < 0), d⟩⟩

/-- The shortest spelling that reads back to a double; the infinities have none. -/
def ofBinary64? : Binary64 → Option Number
  | .infinite _ => none
  | .finite negative 0 => some ⟨negative, 0, some ⟨Digits.zero, []⟩, none⟩
  | .finite negative units =>
    let (m, e) := Binary64.shortest units
    let digits := (Digits.split (Nat.toDigits 10 m)).1
    let significant := (digits.reverse.dropWhile (· == Digits.zero)).reverse
    some (layout negative significant (e + digits.length - 1))

end Conform.Number
