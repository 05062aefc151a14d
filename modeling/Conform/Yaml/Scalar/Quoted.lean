import Conform.Text.Hex
import Conform.Yaml.Scalar.Folding

/-!
Scalars in quotes.
-/

namespace Conform.Yaml
open Text (hexDigit?)

/-- A scalar in single quotes, from after the opening quote; a quote inside is written twice. -/
def singleQuoted (f : Folding) (p : Position) : List Char → Except Fault (String × Cursor)
  | [] => .error (.unreadable .unclosedQuotes p)
  | '\'' :: '\'' :: cs => singleQuoted (f.push '\'') (p.skip 2) cs
  | '\'' :: cs => .ok (f.whole, ⟨cs, p.skip 1⟩)
  | c :: cs =>
    if p.column = 0 && markerAhead (c :: cs) then .error (.unreadable .markerInQuotes p)
    else singleQuoted (f.add c) (p.after c) cs

/-- What a backslash and a character stand for. -/
inductive Escape where
  | char (c : Char)
  /-- The code point in that many hexadecimal digits. -/
  | code (digits : Nat)

def Escape.ofChar? : Char → Option Escape
  | '0' => some (.char '\x00')
  | 'a' => some (.char '\x07')
  | 'b' => some (.char '\x08')
  | 't' | '\t' => some (.char '\t')
  | 'n' => some (.char '\n')
  | 'v' => some (.char '\x0b')
  | 'f' => some (.char '\x0c')
  | 'r' => some (.char '\r')
  | 'e' => some (.char '\x1b')
  | ' ' => some (.char ' ')
  | '"' => some (.char '"')
  | '/' => some (.char '/')
  | '\\' => some (.char '\\')
  | 'N' => some (.char '\u0085')
  | '_' => some (.char '\u00a0')
  | 'L' => some (.char '\u2028')
  | 'P' => some (.char '\u2029')
  | 'x' => some (.code 2)
  | 'u' => some (.code 4)
  | 'U' => some (.code 8)
  | _ => none

/-- Where the reader of a scalar in double quotes is. -/
inductive Quoted where
  | text
  | escape
  /-- So many hexadecimal digits are still to come. -/
  | code (left value : Nat)

/-- A scalar in double quotes, from after the opening quote. -/
def doubleQuoted (s : Quoted) (f : Folding) (p : Position) :
    List Char → Except Fault (String × Cursor)
  | [] => .error (.unreadable .unclosedQuotes p)
  | c :: cs =>
    match s with
    | .text =>
      if p.column = 0 && markerAhead (c :: cs) then .error (.unreadable .markerInQuotes p)
      else if c = '"' then .ok (f.whole, ⟨cs, p.skip 1⟩)
      else if c = '\\' then doubleQuoted .escape f (p.skip 1) cs
      else doubleQuoted .text (f.add c) (p.after c) cs
    | .escape =>
      if isBreak c then doubleQuoted .text f.escapedEnd p.newline cs
      else
        match Escape.ofChar? c with
        | some (.char d) => doubleQuoted .text (f.push d) (p.skip 1) cs
        | some (.code digits) => doubleQuoted (.code digits 0) f (p.skip 1) cs
        | none => .error (.unreadable .unknownEscape p)
    | .code left value =>
      match hexDigit? c with
      | none => .error (.unreadable .escapeDigits p)
      | some d =>
        let value := 16 * value + d
        if 1 < left then doubleQuoted (.code (left - 1) value) f (p.skip 1) cs
        else if value.isValidChar then doubleQuoted .text (f.push (Char.ofNat value)) (p.skip 1) cs
        else .error (.unreadable .escapeValue p)

end Conform.Yaml
