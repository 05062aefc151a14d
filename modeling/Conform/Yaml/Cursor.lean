import Conform.Yaml.Character

/-!
Places in a YAML text.
-/

namespace Conform.Yaml

/-- How many characters, whole lines and characters of the line come before a place. -/
structure Position where
  index : Nat
  line : Nat
  column : Nat
deriving DecidableEq, Repr

namespace Position

def start : Position := ⟨0, 0, 0⟩

def skip (n : Nat) (p : Position) : Position :=
  { p with index := p.index + n, column := p.column + n }

def newline (p : Position) : Position := ⟨p.index + 1, p.line + 1, 0⟩

/-- The place after a character. -/
def after (c : Char) (p : Position) : Position := if isBreak c then p.newline else p.skip 1

/-- The place as people count. -/
def render (p : Position) : String :=
  "line " ++ toString (p.line + 1) ++ " column " ++ toString (p.column + 1)

end Position

/-- A place together with the text from there on. -/
structure Cursor where
  rest : List Char
  position : Position

namespace Cursor

/-- Goes past characters of one line. -/
def skip (n : Nat) (c : Cursor) : Cursor := ⟨c.rest.drop n, c.position.skip n⟩

/-- The characters that satisfy a test, none of them a line end, and the place after them. -/
def span (p : Char → Bool) (c : Cursor) : List Char × Cursor :=
  let cs := c.rest.takeWhile p
  (cs, c.skip cs.length)

def skipWhile (p : Char → Bool) (c : Cursor) : Cursor := (c.span p).2

def skipBlanks (c : Cursor) : Cursor := c.skipWhile isBlank

/-- Goes past blanks and a comment to the end of the line. -/
def skipTrailer (c : Cursor) : Cursor :=
  let c := c.skipBlanks
  if startsWith (· = '#') false c.rest then c.skipWhile fun ch => !isBreak ch else c

/-- Goes past a line end if one comes next. -/
def skipBreak (c : Cursor) : Cursor :=
  match c.rest with
  | ch :: cs => if isBreak ch then ⟨cs, c.position.newline⟩ else c
  | [] => c

/-- Goes past one given character, if it comes next. -/
def skipChar? (ch : Char) (c : Cursor) : Option Cursor :=
  if startsWith (· = ch) false c.rest then some (c.skip 1) else none

end Cursor

end Conform.Yaml
