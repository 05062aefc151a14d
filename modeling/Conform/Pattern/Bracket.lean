import Conform.Pattern.Escape

/-!
Character classes in brackets: ranges, nested classes and operations on sets.
-/

namespace Conform.Pattern

inductive SetOp where
  | intersection
  | difference
  | symmetricDifference

def SetOp.apply : SetOp → CharSet → CharSet → CharSet
  | intersection, s, t => s ∩ t
  | difference, s, t => s \ t
  | symmetricDifference, s, t => s.symmDiff t

/-- The members read so far, as one set. -/
def unite (members : List (Nested CharSet)) : Nested CharSet where
  value := members.foldl (fun s m => s ∪ m.value) CharSet.empty
  depth := joinedDepth (members.map Nested.depth)

/-- What a class part way through waits for. -/
inductive BracketFrame where
  /-- An open bracket, inside a class that so far has these members. -/
  | nested (outer : List (Nested CharSet)) (negated : Bool)
  /-- An operation whose left side is known. -/
  | op (op : SetOp) (left : Nested CharSet)

/-- Reads the hyphens that come first, each a member. -/
def readHyphens (f : Flags) :
    Nat → List (Nested CharSet) → List Char → List (Nested CharSet) × List Char
  | fuel + 1, members, '-' :: cs =>
    readHyphens f fuel (⟨CharSet.single '-', 0⟩ :: members) (f.skip cs)
  | _, members, cs => (members, cs)

/-- Opens a bracket: a caret negates, hyphens come first, and without them a closing bracket is a
member. -/
def openBracket (f : Flags) (cs : List Char) :
    Except String (Bool × List (Nested CharSet) × List Char) := do
  let (negated, cs) :=
    match f.skip cs with
    | '^' :: cs => (true, f.skip cs)
    | cs => (false, cs)
  let (hyphens, rest) := readHyphens f cs.length [] cs
  match hyphens, rest with
  | _, [] => throw "unclosed class"
  | [], ']' :: after =>
    if (f.skip after).isEmpty then throw "unclosed class"
    return (negated, [⟨CharSet.single ']', 0⟩], after)
  | _, _ => return (negated, hyphens, rest)

/-- Closes an operation if there is one. -/
def closeOp (f : Flags) (right : Nested CharSet) :
    List BracketFrame → List BracketFrame × Nested CharSet
  | .op op left :: frames =>
    let value := op.apply (f.fold left.value) (f.fold right.value)
    (frames, ⟨value, max left.depth right.depth + 1⟩)
  | frames => (frames, right)

/-- One member of a class: a character or an escape. -/
def readMember (f : Flags) : List Char → Except String (Escape × List Char)
  | '\\' :: cs => readEscape f cs
  | c :: cs => .ok (.char c, cs)
  | [] => .error "unclosed class"

def memberSet (f : Flags) : Escape → Except String CharSet
  | .char c =>
    if f.unicode || c.toNat < 128 then .ok (CharSet.single c) else .error "not a byte"
  | .byte n => if f.unicode || n < 128 then .ok (CharSet.range n n) else .error "not text"
  | .set s => .ok s
  | .look _ => .error "a condition is not a member of a class"

/-- The end of a range has to be a character. -/
def memberCode (f : Flags) : Escape → Except String Nat
  | .char c => if f.unicode || c.toNat < 128 then .ok c.toNat else .error "not a byte"
  | .byte n => .ok n
  | _ => .error "a range needs characters at its ends"

/-- A member or a range. A hyphen makes a range unless it ends the class or doubles. -/
def readRange (f : Flags) (cs : List Char) : Except String (CharSet × List Char) := do
  let (first, rest) ← readMember f cs
  match f.skip rest with
  | [] => throw "unclosed class"
  | '-' :: after =>
    match f.peek? after with
    | some ']' => return (← memberSet f first, '-' :: after)
    | some '-' => return (← memberSet f first, '-' :: after)
    | _ =>
      let (second, rest) ← readMember f (f.skip after)
      let a ← memberCode f first
      let b ← memberCode f second
      if b < a then throw "the range is empty"
      return (← f.checked (CharSet.range a b), rest)
  | rest => return (← memberSet f first, rest)

/-- A class such as `[:alpha:]`, if there is one; the text comes after the bracket. -/
def asciiBracket? (cs : List Char) : Option (Bool × CharSet × List Char) :=
  match cs with
  | ':' :: cs =>
    let (negated, cs) :=
      match cs with
      | '^' :: cs => (true, cs)
      | cs => (false, cs)
    match cs.dropWhile (· ≠ ':') with
    | ':' :: ']' :: rest =>
      (asciiClass? (String.ofList (cs.takeWhile (· ≠ ':')))).map fun s => (negated, s, rest)
    | _ => none
  | _ => none

/-- Reads the members of a class up to its closing bracket; they are kept last one first. Each round
takes a character at least, so the length of the text suffices for `fuel`. -/
def readMembers (f : Flags) : Nat → List BracketFrame → List (Nested CharSet) → List Char →
    Except String (Nested CharSet × List Char)
  | 0, _, _, _ => .error "unclosed class"
  | fuel + 1, frames, members, cs =>
    let operation := fun (op : SetOp) rest =>
      let (frames, left) := closeOp f (unite members) frames
      readMembers f fuel (.op op left :: frames) [] rest
    match f.skip cs with
    | [] => .error "unclosed class"
    | '[' :: rest =>
      match asciiBracket? rest with
      | some (negated, s, rest) => do
        readMembers f fuel frames (⟨← f.foldAndNegate negated s, 0⟩ :: members) rest
      | none => do
        let (negated, first, rest) ← openBracket f rest
        readMembers f fuel (.nested members negated :: frames) first rest
    | ']' :: rest => do
      match closeOp f (unite members) frames with
      | (.nested outer negated :: frames, s) =>
        let closed := ⟨← f.foldAndNegate negated s.value, s.depth + 1⟩
        if frames.isEmpty then return (closed, rest)
        else readMembers f fuel frames (closed :: outer) rest
      | _ => throw "unclosed class"
    | '&' :: '&' :: rest => operation .intersection rest
    | '-' :: '-' :: rest => operation .difference rest
    | '~' :: '~' :: rest => operation .symmetricDifference rest
    | cs => do
      let (s, rest) ← readRange f cs
      readMembers f fuel frames (⟨s, 0⟩ :: members) rest

/-- Reads a class; the text comes after its opening bracket. -/
def readBracket (f : Flags) (cs : List Char) : Except String (Nested CharSet × List Char) := do
  let (negated, first, rest) ← openBracket f cs
  readMembers f (cs.length + 1) [.nested [] negated] first rest

end Conform.Pattern
