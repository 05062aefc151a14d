import Conform.Text.Hex
import Conform.Yaml.Token.Basic

/-!
Tags, and the directives that precede a document.
-/

namespace Conform.Yaml
open Text (hexDigit?)

/-- A code point in UTF-8 part way through: octets to come, and the value so far. -/
structure Octets where
  left : Nat
  value : Nat

/-- The state after one more octet. -/
def Octets.next? (o : Octets) (octet : Nat) : Option Octets :=
  if o.left = 0 then
    if octet < 0x80 then some ⟨0, octet⟩
    else if 0xC0 ≤ octet ∧ octet < 0xE0 then some ⟨1, octet - 0xC0⟩
    else if 0xE0 ≤ octet ∧ octet < 0xF0 then some ⟨2, octet - 0xE0⟩
    else if 0xF0 ≤ octet ∧ octet < 0xF8 then some ⟨3, octet - 0xF0⟩
    else none
  else if 0x80 ≤ octet ∧ octet < 0xC0 then some ⟨o.left - 1, o.value * 0x40 + (octet - 0x80)⟩
  else none

/-- The leading characters that satisfy a test, last first, with `%` and two digits standing for
an octet. -/
def uriText (p : Char → Bool) (o : Octets) (acc : List Char) (at_ : Position) :
    List Char → Except Fault (List Char × Cursor)
  | '%' :: a :: b :: cs =>
    match hexDigit? a, hexDigit? b with
    | some x, some y =>
      match o.next? (16 * x + y) with
      | some ⟨0, value⟩ => uriText p ⟨0, 0⟩ (Char.ofNat value :: acc) (at_.skip 3) cs
      | some o => uriText p o acc (at_.skip 3) cs
      | none => .error (.unreadable .tagEscape at_)
    | _, _ => .error (.unreadable .tagEscape at_)
  | c :: cs =>
    if o.left != 0 || c = '%' then .error (.unreadable .tagEscape at_)
    else if p c then uriText p o (c :: acc) (at_.skip 1) cs
    else .ok (acc, ⟨c :: cs, at_⟩)
  | [] => if o.left != 0 then .error (.unreadable .tagEscape at_) else .ok (acc, ⟨[], at_⟩)

/-- A text of tag characters after some characters that are already read. -/
def uri (p : Char → Bool) (before : List Char) (c : Cursor) :
    Except Fault (List Char × Cursor) := do
  let (acc, c) ← uriText p ⟨0, 0⟩ before.reverse c.position c.rest
  return (acc.reverse, c)

/-- A text of tag characters that is not empty. -/
def nonemptyUri (p : Char → Bool) (c : Cursor) : Except Fault (String × Cursor) := do
  let (cs, next) ← uri p [] c
  if cs.isEmpty then throw (.unreadable .tagText c.position)
  else return (String.ofList cs, next)

/-- An exclamation mark, a word, and perhaps another exclamation mark; and whether it is there. -/
def tagHandle (c : Cursor) : Except Fault (List Char × Bool × Cursor) :=
  match c.skipChar? '!' with
  | none => .error (.unreadable .tagHandle c.position)
  | some c =>
    let (word, c) := c.span isWord
    match c.skipChar? '!' with
    | some c => .ok ('!' :: word ++ ['!'], true, c)
    | none => .ok ('!' :: word, false, c)

/-- A tag without what has to follow it. -/
def bareTag (c : Cursor) : Except Fault (Token × Cursor) :=
  match c.rest with
  | '!' :: '<' :: _ => do
    let (suffix, c) ← nonemptyUri isUriChar (c.skip 2)
    match c.skipChar? '>' with
    | some c => return (.tag "" suffix, c)
    | none => throw (.unreadable .tagText c.position)
  | _ => do
    let (handle, closed, c) ← tagHandle c
    if closed then
      let (suffix, c) ← nonemptyUri isTagChar c
      return (.tag (String.ofList handle) suffix, c)
    else
      let (suffix, c) ← uri isTagChar (handle.drop 1) c
      if suffix.isEmpty then return (.tag "" "!", c)
      else return (.tag "!" (String.ofList suffix), c)

/-- A tag; white space follows it, or a comma inside a flow collection. -/
def tag (flow : Bool) (c : Cursor) : Except Fault (Token × Cursor) := do
  let (t, c) ← bareTag c
  if blankAhead c.rest || (flow && startsWith (· = ',') false c.rest) then return (t, c)
  else throw (.unreadable .trailingText c.position)

/-- The name of an anchor or an alias, from after its mark. -/
def anchorName (c : Cursor) : Except Fault (String × Cursor) :=
  let (name, next) := c.span isWord
  let ends (d : Char) : Bool :=
    isBlank d || isBreak d || d = '?' || d = ':' || d = ',' || d = ']' || d = '}' || d = '%' ||
      d = '@' || d = '`'
  if name.isEmpty || !startsWith ends true next.rest then
    .error (.unreadable .anchorName next.position)
  else .ok (String.ofList name, next)

/-- A number of at most nine digits. -/
def versionNumber (c : Cursor) : Except Fault (Nat × Cursor) :=
  let (ds, next) := c.span isDigit
  if ds.isEmpty || 9 < ds.length then .error (.unreadable .directiveValue c.position)
  else .ok (ds.foldl (fun n d => 10 * n + (d.toNat - 48)) 0, next)

def versionDirective (c : Cursor) : Except Fault (Token × Cursor) := do
  let (major, c) ← versionNumber c.skipBlanks
  match c.skipChar? '.' with
  | none => throw (.unreadable .directiveValue c.position)
  | some c =>
    let (minor, c) ← versionNumber c
    return (.version major minor, c)

def handleDirective (c : Cursor) : Except Fault (Token × Cursor) := do
  let (name, closed, c) ← tagHandle c.skipBlanks
  if !closed && name != ['!'] then throw (.unreadable .tagHandle c.position)
  if !startsWith isBlank false c.rest then throw (.unreadable .directiveValue c.position)
  let (beginning, c) ← nonemptyUri isUriChar c.skipBlanks
  if !blankAhead c.rest then throw (.unreadable .directiveValue c.position)
  return (.handle (String.ofList name) beginning, c)

/-- A directive up to the end of its line, from after the percent sign. -/
def directive (c : Cursor) : Except Fault (Token × Cursor) := do
  let (name, next) := c.span isWord
  if name.isEmpty || !blankAhead next.rest then throw (.unreadable .directiveName next.position)
  let (t, c) ←
    if name = ['Y', 'A', 'M', 'L'] then versionDirective next
    else if name = ['T', 'A', 'G'] then handleDirective next
    else throw (.unreadable .unknownDirective c.position)
  let c := c.skipTrailer
  if breakAhead c.rest then return (t, c.skipBreak)
  else throw (.unreadable .trailingText c.position)

end Conform.Yaml
