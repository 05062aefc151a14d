import Conform.Pattern.Class
import Conform.Text.Hex
import Conform.Unicode.Value

/-!
What a backslash introduces in a pattern.
-/

namespace Conform.Pattern
open Text (hexDigit?)

inductive Escape where
  | char (c : Char)
  /-- A character given by two hexadecimal digits. -/
  | byte (n : Nat)
  | set (s : CharSet)
  | look (l : Look)

/-- The text after blanks and comments, where these are skipped. -/
def skipVerbose (inComment : Bool) : List Char → List Char
  | [] => []
  | c :: cs =>
    if inComment then skipVerbose (c ≠ '\n') cs
    else if c = '#' then skipVerbose true cs
    else if Text.isBlank c then skipVerbose false cs
    else c :: cs

def Flags.skip (f : Flags) (cs : List Char) : List Char :=
  if f.verbose then skipVerbose false cs else cs

/-- The character that comes next. A comment is not skipped: after its hash this is the first
character inside it. -/
def Flags.peek? (f : Flags) (cs : List Char) : Option Char :=
  if !f.verbose then cs.head?
  else
    match cs.dropWhile Text.isBlank with
    | '#' :: cs => (cs.dropWhile Text.isBlank).head?
    | cs => cs.head?

/-- The text up to a closing brace, and the text behind it. -/
def readBraced (f : Flags) (cs : List Char) : Except String (List Char × List Char) :=
  match cs.dropWhile (· ≠ '}') with
  | [] => .error "unclosed brace"
  | _ :: rest =>
    let body := cs.takeWhile (· ≠ '}')
    .ok (if f.verbose then body.filter fun c => !Text.isBlank c else body, rest)

def charOfCode (n : Nat) : Except String Char :=
  if n.isValidChar then .ok (Char.ofNat n) else .error "no such character"

/-- The number that hexadecimal digits spell. -/
def hexValue? : Nat → List Char → Option Nat
  | value, [] => some value
  | value, c :: cs => (hexDigit? c).bind fun d => hexValue? (16 * value + d) cs

/-- Reads as many hexadecimal digits. -/
def readHexDigits (f : Flags) : Nat → Nat → List Char → Except String (Nat × List Char)
  | 0, value, cs => .ok (value, cs)
  | n + 1, value, cs =>
    match f.skip cs with
    | [] => .error "unfinished escape"
    | c :: cs =>
      match hexDigit? c with
      | some d => readHexDigits f n (16 * value + d) cs
      | none => .error "not a hexadecimal digit"

/-- A character by its code, in braces or with a fixed number of digits. -/
def readHex (f : Flags) (count : Nat) (cs : List Char) : Except String (Escape × List Char) := do
  match f.skip cs with
  | '{' :: cs =>
    let (body, rest) ← readBraced f cs
    match body, hexValue? 0 body with
    | [], _ => throw "no hexadecimal digits"
    | _, none => throw "not a hexadecimal digit"
    | _, some n => return (.char (← charOfCode n), rest)
  | cs =>
    let (n, rest) ← readHexDigits f count 0 cs
    let c ← charOfCode n
    return (if count = 2 then .byte n else .char c, rest)

/-- The text before and after the first place where a separator stands. -/
def splitAt? (separator : List Char) : List Char → Option (List Char × List Char)
  | [] => none
  | c :: cs =>
    if separator.isPrefixOf (c :: cs) then some ([], (c :: cs).drop separator.length)
    else (splitAt? separator cs).map fun (before, after) => (c :: before, after)

/-- The class with a name or with a value of a property. An exclamation mark before the equals
sign changes nothing. -/
def unicodeClass? (name : List Char) : Option CharSet :=
  match (splitAt? ['!', '='] name).or ((splitAt? [':'] name).or (splitAt? ['='] name)) with
  | some (property, value) => Unicode.valued? property value
  | none => Unicode.named? name

def readUnicodeClass (f : Flags) (negated : Bool) (cs : List Char) :
    Except String (Escape × List Char) := do
  if !f.unicode then throw "Unicode classes need Unicode"
  let (name, rest) ←
    match f.skip cs with
    | '{' :: cs => readBraced f cs
    | '\\' :: _ => throw "no such class"
    | c :: cs => pure ([c], cs)
    | [] => throw "unfinished escape"
  let some s := unicodeClass? name | throw "no such class"
  return (.set (← f.foldAndNegate negated s), rest)

/-- The special word boundaries `\b{start}`, `\b{end}` and their halves. Braces that do not begin
like one belong to a repetition. -/
def readWordBoundary (f : Flags) (cs : List Char) : Except String (Look × List Char) :=
  let isName := fun c : Char => c.isAlpha || c = '-'
  let plain := Look.wordBoundary f.unicode false
  match cs with
  | '{' :: inner =>
    match f.skip inner with
    | [] => .error "unfinished word boundary"
    | c :: inner =>
      if !isName c then .ok (plain, cs)
      else
        let name := String.ofList ((c :: inner).takeWhile isName)
        match f.skip ((c :: inner).dropWhile isName) with
        | '}' :: rest =>
          match name with
          | "start" => .ok (.wordStart f.unicode, rest)
          | "end" => .ok (.wordEnd f.unicode, rest)
          | "start-half" => .ok (.wordStartHalf f.unicode, rest)
          | "end-half" => .ok (.wordEndHalf f.unicode, rest)
          | _ => .error "no such word boundary"
        | _ => .error "unclosed word boundary"
  | _ => .ok (plain, cs)

/-- Characters that stand for themselves after a backslash. -/
def isEscapable (c : Char) : Bool := c.toNat < 128 && !c.isAlphanum && c ≠ '<' && c ≠ '>'

/-- Reads what follows a backslash. -/
def readEscape (f : Flags) : List Char → Except String (Escape × List Char)
  | [] => .error "unfinished escape"
  | c :: cs =>
    if c.isDigit then .error "backreferences are not supported"
    else if c = 'x' then readHex f 2 cs
    else if c = 'u' then readHex f 4 cs
    else if c = 'U' then readHex f 8 cs
    else if c = 'p' then readUnicodeClass f false cs
    else if c = 'P' then readUnicodeClass f true cs
    else if isEscapable c then .ok (.char c, cs)
    else
      match shorthand? f c, shorthand? f c.toLower with
      | some s, _ => .ok (.set s, cs)
      | none, some s => (f.checked s.complement).map fun s => (.set s, cs)
      | none, none =>
        match c with
        | 'a' => .ok (.char '\x07', cs)
        | 'f' => .ok (.char '\x0c', cs)
        | 't' => .ok (.char '\t', cs)
        | 'n' => .ok (.char '\n', cs)
        | 'r' => .ok (.char '\r', cs)
        | 'v' => .ok (.char '\x0b', cs)
        | 'A' => .ok (.look .textStart, cs)
        | 'z' => .ok (.look .textEnd, cs)
        | 'b' => (readWordBoundary f cs).map fun (l, rest) => (.look l, rest)
        | 'B' => .ok (.look (.wordBoundary f.unicode true), cs)
        | '<' => .ok (.look (.wordStart f.unicode), cs)
        | '>' => .ok (.look (.wordEnd f.unicode), cs)
        | _ => .error "no such escape"

end Conform.Pattern
