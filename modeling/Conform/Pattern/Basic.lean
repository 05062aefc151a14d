import Conform.Unicode.Property

/-!
Regular patterns and where they match. Matching follows sets of positions through the pattern, so
its time is bounded by the text whatever the pattern.
-/

namespace Conform

/-- A condition on the characters on both sides of a position. -/
inductive Look where
  | textStart
  | textEnd
  | lineStart (crlf : Bool)
  | lineEnd (crlf : Bool)
  | wordBoundary (unicode negated : Bool)
  | wordStart (unicode : Bool)
  | wordEnd (unicode : Bool)
  | wordStartHalf (unicode : Bool)
  | wordEndHalf (unicode : Bool)

inductive Pattern where
  | empty
  /-- One character of a set. -/
  | set (s : CharSet)
  | look (l : Look)
  | concat (p q : Pattern)
  | alt (p q : Pattern)
  /-- At least `least` and at most `most` repetitions; without `most`, any number. -/
  | loop (p : Pattern) (least : Nat) (most : Option Nat)

/-- The characters of words in ASCII. -/
def asciiWord : CharSet := CharSet.ofRanges [(0x30, 0x39), (0x41, 0x5A), (0x5F, 0x5F), (0x61, 0x7A)]

namespace Look

private def isWord (unicode : Bool) : Option Char → Bool
  | none => false
  | some c => if unicode then Unicode.word.contains c else asciiWord.contains c

/-- Whether the condition holds between two characters; the ends of the text have none beyond. -/
def holds (before after : Option Char) : Look → Bool
  | textStart => before.isNone
  | textEnd => after.isNone
  | lineStart false => before.isNone || before == some '\n'
  | lineEnd false => after.isNone || after == some '\n'
  | lineStart true =>
    before.isNone || before == some '\n' || (before == some '\r' && after != some '\n')
  | lineEnd true =>
    after.isNone || after == some '\r' || (after == some '\n' && before != some '\r')
  | wordBoundary unicode negated => (isWord unicode before != isWord unicode after) != negated
  | wordStart unicode => !isWord unicode before && isWord unicode after
  | wordEnd unicode => isWord unicode before && !isWord unicode after
  | wordStartHalf unicode => !isWord unicode before
  | wordEndHalf unicode => !isWord unicode after

end Look

/-- Positions in decreasing order, each once. -/
abbrev Positions := List Nat

namespace Positions

def union : Positions → Positions → Positions
  | [], ys => ys
  | xs, [] => xs
  | x :: xs, y :: ys =>
    if x = y then x :: union xs ys
    else if y < x then x :: union xs (y :: ys)
    else y :: union (x :: xs) ys
termination_by xs ys => xs.length + ys.length

/-- The positions of the first list that are not in the second. -/
def minus : Positions → Positions → Positions
  | [], _ => []
  | xs, [] => xs
  | x :: xs, y :: ys =>
    if x = y then minus xs ys
    else if y < x then x :: minus xs (y :: ys)
    else minus (x :: xs) ys
termination_by xs ys => xs.length + ys.length

/-- What `n` applications of a step lead to. -/
def iterate (step : Positions → Positions) : Nat → Positions → Positions
  | 0, ps => ps
  | n + 1, ps => if ps.isEmpty then [] else iterate step n (step ps)

/-- What at most `n` further applications of a step add to the positions already seen. -/
def closure (step : Positions → Positions) : Nat → Positions → Positions → Positions
  | 0, _, seen => seen
  | n + 1, fresh, seen =>
    let next := minus (step fresh) seen
    if next.isEmpty then seen else closure step n next (union next seen)

end Positions

namespace Pattern

/-- Where matches that start at the given positions end. In a text of `n` characters no step
leads to anything new after `n + 1` applications. -/
def ends (text : Array Char) : Pattern → Positions → Positions
  | empty, ps => ps
  | set s, ps => ps.filterMap fun i =>
    match text[i]? with
    | some c => if s.contains c then some (i + 1) else none
    | none => none
  | look l, ps => ps.filter fun i => l.holds (if i = 0 then none else text[i - 1]?) text[i]?
  | concat p q, ps => q.ends text (p.ends text ps)
  | alt p q, ps => Positions.union (p.ends text ps) (q.ends text ps)
  | loop p least most, ps =>
    let bound := text.size + 1
    let start := Positions.iterate (p.ends text) (min least bound) ps
    let further :=
      match most with
      | none => bound
      | some most => min (most - least) bound
    Positions.closure (p.ends text) further start start

/-- Whether the pattern matches somewhere in a text. -/
def isMatch (p : Pattern) (s : String) : Bool :=
  let text := s.toList.toArray
  !(p.ends text (List.range (text.size + 1)).reverse).isEmpty

/-- What a part of a text spells, with how deep its syntax nests. -/
structure Nested (α : Type) where
  value : α
  depth : Nat

/-- Syntax that nests deeper than this is refused. -/
def maxDepth : Nat := 250

/-- How deep syntax nests that joins parts of these depths; a single part stands for itself. -/
def joinedDepth : List Nat → Nat
  | [] => 0
  | [d] => d
  | ds => ds.foldl max 0 + 1

def concatAll : List Pattern → Pattern
  | [] => empty
  | [p] => p
  | p :: ps => concat p (concatAll ps)

/-- A choice between at least one pattern. -/
def altAll (p : Pattern) : List Pattern → Pattern
  | [] => p
  | q :: qs => alt p (altAll q qs)

end Pattern

end Conform
