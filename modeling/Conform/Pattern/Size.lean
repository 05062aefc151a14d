import Conform.Pattern.Basic
import Conform.Power

/-!
How large an automaton for a pattern is that reads the bytes of UTF-8 backwards.
-/

namespace Conform.Pattern

/-- The numbers of a range by their digits to the base 64: each list has a range for every digit,
the first of which may be larger, with `n` digits behind it. -/
def digitRanges : Nat → Nat → Nat → List (List (Nat × Nat))
  | 0, a, b => [[(a, b)]]
  | n + 1, a, b =>
    let block := pow2 (6 * (n + 1))
    let within := fun d a b => (digitRanges n a b).map fun digits => (d, d) :: digits
    let first := a / block
    let last := b / block
    if first = last then within first (a % block) (b % block)
    else
      let (start, below) :=
        if a % block = 0 then (first, []) else (first + 1, within first (a % block) (block - 1))
      let (stop, above) :=
        if b % block = block - 1 then (last + 1, []) else (last, within last 0 (b % block))
      let whole :=
        if start < stop then [(start, stop - 1) :: List.replicate (n + 1) (0, 63)] else []
      below ++ whole ++ above

/-- The least first byte of an encoding, how many bytes follow and which code points they are for;
those between are no characters. -/
def encodings : List (Nat × Nat × Nat × Nat) := [
  (0, 0, 0, 0x7F), (0xC0, 1, 0x80, 0x7FF), (0xE0, 2, 0x800, 0xD7FF), (0xE0, 2, 0xE000, 0xFFFF),
  (0xF0, 3, 0x10000, 0x10FFFF)]

/-- The spellings of the members of a set, without the mark of the bytes behind the first. -/
def spellings (s : CharSet) : List (List (Nat × Nat)) :=
  encodings.flatMap fun (lead, n, least, most) =>
    let inside := s.ranges.filter fun (a, b) => least ≤ b && a ≤ most
    let digits := inside.flatMap fun (a, b) => digitRanges n (max a least) (min b most)
    digits.map fun
      | (a, b) :: rest => (lead + a, lead + b) :: rest
      | [] => []

/-- How many states read spellings; two that begin alike share states, and they are next to each
other. -/
def stateCount (spellings : List (List (Nat × Nat))) : Nat :=
  let shared := (spellings.zip spellings.tail).flatMap fun (xs, ys) =>
    (xs.zip ys).takeWhile fun (x, y) => x == y
  spellings.flatten.length - shared.length

def isSingle (s : CharSet) : Bool :=
  match s.ranges with
  | [(a, b)] => a = b
  | _ => false

/-- The bytes for a set. A state takes 32 of them, a branch to another state 4 and a range inside a
state 8; a set of several characters has two states of its own. -/
def setSize (s : CharSet) : Nat :=
  let spelled := spellings s
  let states := 32 * stateCount spelled
  if isSingle s then states
  else if s.isAscii then 64 + 8 * s.ranges.length
  else 64 + 4 * spelled.length + states

/-- An estimate of the bytes that an automaton for the pattern takes. -/
def size : Pattern → Nat
  | empty => 0
  | set s => setSize s
  | look _ => 32
  | concat p q => p.size + q.size
  | alt p (alt q r) => p.size + (alt q r).size + 4
  | alt p q => p.size + q.size + 72
  | loop p least none => p.size * max least 1 + 40
  | loop p least (some most) =>
    if least = most then p.size * least else p.size * most + 40 * (most - least) + 32

/-- Patterns of more bytes are refused. -/
def maxSize : Nat := 10 * pow2 20

end Conform.Pattern
