/-!
Evenly spaced code points, the form in which tables of characters are written.
-/

namespace Conform.Text

/-- Code points from `first` to `last`, every `stride`-th of them. -/
structure Progression where
  first : Nat
  last : Nat
  stride : Nat

namespace Progression

def contains (p : Progression) (n : Nat) : Bool :=
  p.first ≤ n && n ≤ p.last && (n - p.first) % p.stride == 0

/-- The code points as closed ranges. -/
def ranges (p : Progression) : List (Nat × Nat) :=
  if p.stride ≤ 1 then [(p.first, p.last)]
  else (List.range ((p.last - p.first) / p.stride + 1)).map fun i =>
    (p.first + i * p.stride, p.first + i * p.stride)

end Progression

end Conform.Text
