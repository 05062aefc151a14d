import Conform.Yaml.Fault

/-!
Line folding: a single line end inside a flow scalar stands for a space, and blanks around line
ends are dropped.
-/

namespace Conform.Yaml

/-- White space that counts only if more text follows; everything last first. -/
inductive Gap where
  | blanks (cs : List Char)
  /-- A line end, `none` if it was escaped, and the line ends after it. -/
  | breaks (first : Option Char) (later : List Char)

/-- The text of a scalar so far, last character first, and the gap after it. -/
structure Folding where
  text : List Char
  gap : Gap

namespace Folding

def empty : Folding := ⟨[], .blanks []⟩

/-- The text once the gap is known to be inside the scalar. -/
def closed (f : Folding) : List Char :=
  match f.gap with
  | .blanks cs => cs ++ f.text
  | .breaks (some '\n') [] => ' ' :: f.text
  | .breaks (some '\n') later => later ++ f.text
  | .breaks (some c) later => later ++ c :: f.text
  | .breaks none later => later ++ f.text

def push (c : Char) (f : Folding) : Folding := ⟨c :: f.closed, .blanks []⟩

/-- A blank counts unless a line end came before it. -/
def blank (c : Char) (f : Folding) : Folding :=
  match f.gap with
  | .blanks cs => { f with gap := .blanks (c :: cs) }
  | .breaks .. => f

def lineEnd (c : Char) (f : Folding) : Folding :=
  match f.gap with
  | .blanks _ => { f with gap := .breaks (some c) [] }
  | .breaks first later => { f with gap := .breaks first (c :: later) }

/-- A line end after a backslash stands for nothing. -/
def escapedEnd (f : Folding) : Folding := ⟨f.closed, .breaks none []⟩

def add (c : Char) (f : Folding) : Folding :=
  if isBlank c then f.blank c else if isBreak c then f.lineEnd c else f.push c

/-- The gap holds a line end. -/
def onNewLine (f : Folding) : Bool :=
  match f.gap with
  | .blanks _ => false
  | .breaks .. => true

def inGap (f : Folding) : Bool :=
  match f.gap with
  | .blanks [] => false
  | _ => true

/-- The text up to the gap. -/
def content (f : Folding) : String := String.ofList f.text.reverse

/-- The text with the gap. -/
def whole (f : Folding) : String := String.ofList f.closed.reverse

end Folding

end Conform.Yaml
