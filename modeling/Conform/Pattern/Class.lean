import Conform.Pattern.Basic
import Conform.Text.Blank
import Conform.Unicode.Folding

/-!
The sets of characters that patterns name, under the flags in force.
-/

namespace Conform.Pattern

/-- How the part of a pattern that follows is read. -/
structure Flags where
  insensitive : Bool
  multiline : Bool
  dotAll : Bool
  unicode : Bool
  crlf : Bool
  /-- Blanks and comments in the pattern are skipped. -/
  verbose : Bool
deriving Inhabited

def Flags.initial : Flags := ⟨false, false, false, true, false, false⟩

/-- Every character that folds to another one, with that one. -/
def foldings : List (Nat × Nat) :=
  Unicode.foldingTable.flatMap fun (p, distance) =>
    p.ranges.flatMap fun (a, b) =>
      (List.range (b + 1 - a)).map fun i => (a + i, ((a + i : Nat) + distance : Int).toNat)

private def hasCode (s : CharSet) (n : Nat) : Bool := s.ranges.any fun (a, b) => a ≤ n && n ≤ b

/-- A set with all case variants of its members. -/
def foldUnicode (s : CharSet) : CharSet :=
  let point := fun n : Nat => (n, n)
  let targets := (foldings.filter fun (c, _) => hasCode s c).map fun (_, t) => point t
  let s := CharSet.ofRanges (s.ranges ++ targets)
  let sources := (foldings.filter fun (_, t) => hasCode s t).map fun (c, _) => point c
  CharSet.ofRanges (s.ranges ++ sources)

/-- A set with the other case of its ASCII letters. -/
def foldAscii (s : CharSet) : CharSet :=
  let letters := (List.range 26).flatMap fun i =>
    (if hasCode s (65 + i) then [(97 + i, 97 + i)] else []) ++
      (if hasCode s (97 + i) then [(65 + i, 65 + i)] else [])
  CharSet.ofRanges (s.ranges ++ letters)

namespace Flags

/-- The members and, where case is ignored, their variants. -/
def fold (f : Flags) (s : CharSet) : CharSet :=
  if !f.insensitive then s else if f.unicode then foldUnicode s else foldAscii s

/-- Without Unicode a class is a set of bytes; only ASCII bytes are text by themselves. -/
def checked (f : Flags) (s : CharSet) : Except String CharSet :=
  if f.unicode || s.isAscii then .ok s else .error "the class matches bytes that are no text"

def foldAndNegate (f : Flags) (negated : Bool) (s : CharSet) : Except String CharSet :=
  let s := f.fold s
  f.checked (if negated then s.complement else s)

def dot (f : Flags) : Except String CharSet :=
  if !f.unicode then .error "a dot matches bytes that are no text"
  else if f.dotAll then .ok CharSet.all
  else if f.crlf then .ok (CharSet.ofRanges [(10, 10), (13, 13)]).complement
  else .ok (CharSet.range 10 10).complement

end Flags

private def asciiDigit : CharSet := CharSet.range 0x30 0x39

private def asciiSpace : CharSet := CharSet.ofRanges [(9, 13), (32, 32)]

/-- The classes `\d`, `\s` and `\w`. -/
def shorthand? (f : Flags) : Char → Option CharSet
  | 'd' => some (if f.unicode then Unicode.decimalNumber else asciiDigit)
  | 's' => some (if f.unicode then Unicode.whiteSpace else asciiSpace)
  | 'w' => some (if f.unicode then Unicode.word else asciiWord)
  | _ => none

/-- The classes that are written `[:name:]` inside brackets. -/
def asciiClass? : String → Option CharSet
  | "alnum" => some (CharSet.ofRanges [(0x30, 0x39), (0x41, 0x5A), (0x61, 0x7A)])
  | "alpha" => some (CharSet.ofRanges [(0x41, 0x5A), (0x61, 0x7A)])
  | "ascii" => some (CharSet.range 0 0x7F)
  | "blank" => some (CharSet.ofRanges [(9, 9), (32, 32)])
  | "cntrl" => some (CharSet.ofRanges [(0, 0x1F), (0x7F, 0x7F)])
  | "digit" => some asciiDigit
  | "graph" => some (CharSet.range 0x21 0x7E)
  | "lower" => some (CharSet.range 0x61 0x7A)
  | "print" => some (CharSet.range 0x20 0x7E)
  | "punct" => some (CharSet.ofRanges [(0x21, 0x2F), (0x3A, 0x40), (0x5B, 0x60), (0x7B, 0x7E)])
  | "space" => some asciiSpace
  | "upper" => some (CharSet.range 0x41 0x5A)
  | "word" => some asciiWord
  | "xdigit" => some (CharSet.ofRanges [(0x30, 0x39), (0x41, 0x46), (0x61, 0x66)])
  | _ => none

end Conform.Pattern
