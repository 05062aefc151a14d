import Conform.Yaml.Fault

/-!
Block scalars: indented lines after `|` or `>`.
-/

namespace Conform.Yaml

/-- What becomes of the line ends after the last line. -/
inductive Chomping where
  | strip
  | clip
  | keep

/-- The first line of a block scalar. -/
structure BlockHeader where
  chomping : Chomping
  /-- Indentation relative to the surrounding collection, if it is given. -/
  increment : Option Nat

namespace BlockHeader

def chomping? (c : Cursor) : Option (Chomping × Cursor) :=
  match c.rest with
  | '+' :: _ => some (.keep, c.skip 1)
  | '-' :: _ => some (.strip, c.skip 1)
  | _ => none

def increment? (c : Cursor) : Except Fault (Option Nat × Cursor) :=
  match c.rest with
  | '0' :: _ => .error (.unreadable .zeroIndentation c.position)
  | d :: _ => .ok (if isDigit d then (some (d.toNat - 48), c.skip 1) else (none, c))
  | [] => .ok (none, c)

/-- The two indicators come in either order. -/
def read (c : Cursor) : Except Fault (BlockHeader × Cursor) := do
  let (header, c) ←
    match chomping? c with
    | some (chomping, c) => do
      let (increment, c) ← increment? c
      pure (BlockHeader.mk chomping increment, c)
    | none => do
      let (increment, c) ← increment? c
      match increment, chomping? c with
      | some n, some (chomping, c) => pure (BlockHeader.mk chomping (some n), c)
      | increment, _ => pure (BlockHeader.mk .clip increment, c)
  let c := c.skipTrailer
  if breakAhead c.rest then return (header, c.skipBreak)
  else throw (.unreadable .trailingText c.position)

end BlockHeader

/-- The lines of a block scalar so far. -/
structure BlockText where
  /-- All but the last line end, last character first. -/
  text : List Char
  /-- The end of the last line that is not blank. -/
  lineEnd : Option Char
  /-- The ends of the blank lines after it, last first. -/
  blankEnds : List Char
  /-- The last line starts with a blank. -/
  indented : Bool

namespace BlockText

def empty : BlockText := ⟨[], none, [], false⟩

/-- A new line begins with `c`. Folding turns the line end before it into a space, or drops it if
blank lines follow, unless either line starts with a blank. -/
def startLine (folded : Bool) (c : Char) (b : BlockText) : BlockText :=
  let text :=
    if folded && b.lineEnd == some '\n' && !b.indented && !isBlank c then
      if b.blankEnds.isEmpty then ' ' :: b.text else b.text
    else b.lineEnd.toList ++ b.text
  ⟨b.blankEnds ++ text, none, [], isBlank c⟩

def push (c : Char) (b : BlockText) : BlockText := { b with text := c :: b.text }

def endLine (c : Char) (b : BlockText) : BlockText := { b with lineEnd := some c }

def blankLine (c : Char) (b : BlockText) : BlockText := { b with blankEnds := c :: b.blankEnds }

def finish (chomping : Chomping) (b : BlockText) : String :=
  String.ofList (List.reverse
    (match chomping with
    | .strip => b.text
    | .clip => b.lineEnd.toList ++ b.text
    | .keep => b.blankEnds ++ b.lineEnd.toList ++ b.text))

end BlockText

/-- The text of a block scalar. `indent` is its indentation, unknown until the first line that is
not blank; `widest` is the indentation of the widest blank line before that, and `least` the
least indentation that a line may have. -/
def blockScalar (folded : Bool) (least : Nat) (inLine : Bool) (indent : Option Nat) (widest : Nat)
    (b : BlockText) (p : Position) : List Char → Except Fault (BlockText × Cursor)
  | [] => .ok (b, ⟨[], p⟩)
  | c :: cs =>
    if inLine then
      if isBreak c then
        blockScalar folded least false indent widest (b.endLine c) p.newline cs
      else blockScalar folded least true indent widest (b.push c) (p.skip 1) cs
    else
      let inMargin :=
        match indent with
        | none => true
        | some n => p.column < n
      if inMargin && c = ' ' then
        blockScalar folded least false indent widest b (p.skip 1) cs
      else if inMargin && c = '\t' then .error (.unreadable .tabIndentation p)
      else
        let widest := max widest p.column
        if isBreak c then
          blockScalar folded least false indent widest (b.blankLine c) p.newline cs
        else
          let n := indent.getD (max widest least)
          if p.column = n then
            blockScalar folded least true (some n) widest ((b.startLine folded c).push c)
              (p.skip 1) cs
          else .ok (b, ⟨c :: cs, p⟩)

end Conform.Yaml
