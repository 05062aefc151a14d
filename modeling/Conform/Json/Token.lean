import Conform.Json.Basic
import Conform.Text.Hex

/-!
JSON tokens. The scanner is a machine over characters: one step per character, no backtracking.
-/

namespace Conform.Json
open Text (hexDigit?)

inductive Token where
  | leftBracket
  | rightBracket
  | leftBrace
  | rightBrace
  | comma
  | colon
  | null
  | bool (b : Bool)
  | number (n : Number)
  | string (s : String)

/-- Where the scanner is; what it has collected is kept last character first. -/
inductive Scanner where
  | idle
  | word (acc : List Char)
  | text (acc : List Char)
  | escape (acc : List Char)
  /-- Inside `\u`, with `left` hexadecimal digits to come; `high` is a surrogate to complete. -/
  | unicode (acc : List Char) (high : Option Nat) (left value : Nat)
  /-- A high surrogate has been read: `\` has to come. -/
  | surrogate (acc : List Char) (high : Nat)
  /-- A high surrogate and `\` have been read: `u` has to come. -/
  | surrogateEscape (acc : List Char) (high : Nat)

def isSpace (c : Char) : Bool := c = ' ' || c = '\t' || c = '\n' || c = '\r'

/-- The character after a backslash, other than `u`. -/
def unescape? : Char → Option Char
  | '"' => some '"'
  | '\\' => some '\\'
  | '/' => some '/'
  | 'b' => some '\x08'
  | 'f' => some '\x0c'
  | 'n' => some '\n'
  | 'r' => some '\r'
  | 't' => some '\t'
  | _ => none

/-- Words are the three literals and the numbers. -/
def Token.ofWord? (cs : List Char) : Option Token :=
  if cs = ['n', 'u', 'l', 'l'] then some .null
  else if cs = ['t', 'r', 'u', 'e'] then some (.bool true)
  else if cs = ['f', 'a', 'l', 's', 'e'] then some (.bool false)
  else (Number.ofChars? cs).map .number

def Token.punctuation? : Char → Option Token
  | '[' => some .leftBracket
  | ']' => some .rightBracket
  | '{' => some .leftBrace
  | '}' => some .rightBrace
  | ',' => some .comma
  | ':' => some .colon
  | _ => none

namespace Scanner

/-- Whether a character ends a word. -/
def isDelimiter (c : Char) : Bool := isSpace c || c = '"' || (Token.punctuation? c).isSome

/-- A character between tokens. -/
def start (c : Char) : List Token × Scanner :=
  if isSpace c then ([], idle)
  else if c = '"' then ([], text [])
  else
    match Token.punctuation? c with
    | some t => ([t], idle)
    | none => ([], word [c])

/-- Four hexadecimal digits are complete. A surrogate counts only as half of a pair. -/
def codeUnit (acc : List Char) : Option Nat → Nat → Option Scanner
  | none, unit =>
    if 0xD800 ≤ unit ∧ unit < 0xDC00 then some (surrogate acc unit)
    else if 0xDC00 ≤ unit ∧ unit < 0xE000 then none
    else some (text (Char.ofNat unit :: acc))
  | some high, unit =>
    if 0xDC00 ≤ unit ∧ unit < 0xE000 then
      some (text (Char.ofNat (0x10000 + (high - 0xD800) * 0x400 + (unit - 0xDC00)) :: acc))
    else none

/-- The tokens that a character completes and the state after it. -/
def step : Scanner → Char → Option (List Token × Scanner)
  | idle, c => some (start c)
  | word acc, c =>
    if isDelimiter c then do
      let t ← Token.ofWord? acc.reverse
      let (ts, next) := start c
      return (t :: ts, next)
    else some ([], word (c :: acc))
  | text acc, c =>
    if c = '"' then some ([.string (String.ofList acc.reverse)], idle)
    else if c = '\\' then some ([], escape acc)
    else if c.toNat < 0x20 then none
    else some ([], text (c :: acc))
  | escape acc, c =>
    if c = 'u' then some ([], unicode acc none 4 0)
    else (unescape? c).map fun d => ([], text (d :: acc))
  | unicode acc high left value, c => do
    let d ← hexDigit? c
    let value := 16 * value + d
    if left ≤ 1 then return ([], ← codeUnit acc high value)
    else return ([], unicode acc high (left - 1) value)
  | surrogate acc high, c => if c = '\\' then some ([], surrogateEscape acc high) else none
  | surrogateEscape acc high, c => if c = 'u' then some ([], unicode acc (some high) 4 0) else none

/-- What the end of the text completes. -/
def finish : Scanner → Option (List Token)
  | idle => some []
  | word acc => (Token.ofWord? acc.reverse).map ([·])
  | _ => none

/-- The tokens of a text, read from a given state. -/
def run (s : Scanner) : List Char → Option (List Token)
  | [] => s.finish
  | c :: cs => do
    let (ts, next) ← s.step c
    return ts ++ (← run next cs)

end Scanner

/-- The tokens of a text. -/
def Token.scan (s : String) : Option (List Token) := Scanner.idle.run s.toList

end Conform.Json
