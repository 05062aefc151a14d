import Conform.Text.Progression

/-!
Sets of characters as increasing lists of closed ranges of code points.
-/

namespace Conform
open Text (Progression)

/-- The ranges are increasing, disjoint and not adjacent. -/
structure CharSet where
  ranges : List (Nat × Nat)
deriving DecidableEq, Inhabited

namespace CharSet

/-- The largest code point. -/
def last : Nat := 0x10FFFF

def empty : CharSet := ⟨[]⟩

def all : CharSet := ⟨[(0, last)]⟩

/-- Joins ranges that overlap or touch; they come ordered by their starts. -/
def mergeRanges : List (Nat × Nat) → List (Nat × Nat)
  | [] => []
  | [r] => [r]
  | (a, b) :: (c, d) :: rest =>
    if c ≤ b + 1 then mergeRanges ((a, max b d) :: rest)
    else (a, b) :: mergeRanges ((c, d) :: rest)
termination_by rs => rs.length

def ofRanges (rs : List (Nat × Nat)) : CharSet :=
  ⟨mergeRanges (rs.mergeSort fun r s => r.1 ≤ s.1)⟩

def ofProgressions (ps : List Progression) : CharSet := ofRanges (ps.flatMap Progression.ranges)

def range (a b : Nat) : CharSet := ⟨[(a, b)]⟩

def single (c : Char) : CharSet := range c.toNat c.toNat

def points (ns : List Nat) : CharSet := ofRanges (ns.map fun n => (n, n))

def contains (s : CharSet) (c : Char) : Bool :=
  s.ranges.any fun (a, b) => a ≤ c.toNat && c.toNat ≤ b

def union (s t : CharSet) : CharSet := ofRanges (s.ranges ++ t.ranges)

instance : Union CharSet := ⟨union⟩

/-- What lies between ranges, from a start on. -/
def gaps (start : Nat) : List (Nat × Nat) → List (Nat × Nat)
  | [] => if start ≤ last then [(start, last)] else []
  | (a, b) :: rest => if start < a then (start, a - 1) :: gaps (b + 1) rest else gaps (b + 1) rest

def complement (s : CharSet) : CharSet := ⟨gaps 0 s.ranges⟩

instance : Inter CharSet := ⟨fun s t => (s.complement ∪ t.complement).complement⟩

instance : SDiff CharSet := ⟨fun s t => s ∩ t.complement⟩

/-- Members of exactly one of two sets. -/
def symmDiff (s t : CharSet) : CharSet := (s \ t) ∪ (t \ s)

/-- The union of many sets. -/
def unions (ss : List CharSet) : CharSet := ofRanges (ss.flatMap ranges)

/-- No member lies outside ASCII. -/
def isAscii (s : CharSet) : Bool := s.ranges.all fun (_, b) => b < 128

end CharSet

end Conform
