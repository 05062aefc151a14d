/-!
Characters of YAML texts, and line ends reduced to one character each.
-/

namespace Conform.Yaml

def isBlank (c : Char) : Bool := c = ' ' || c = '\t'

/-- Characters that end a line once line ends are unified. -/
def isBreak (c : Char) : Bool := c = '\n' || c = '\u2028' || c = '\u2029'

/-- Characters of anchors, tag handles and directive names. -/
def isWord (c : Char) : Bool :=
  ('0' ≤ c && c ≤ '9') || ('a' ≤ c && c ≤ 'z') || ('A' ≤ c && c ≤ 'Z') || c = '_' || c = '-'

def isDigit (c : Char) : Bool := '0' ≤ c && c ≤ '9'

/-- Delimiters of flow collections. -/
def isFlowDelimiter (c : Char) : Bool :=
  c = ',' || c = '[' || c = ']' || c = '{' || c = '}'

/-- Characters that never start a plain scalar. -/
def isIndicator (c : Char) : Bool :=
  isFlowDelimiter c || c = '#' || c = '&' || c = '*' || c = '!' || c = '|' || c = '>' ||
    c = '\'' || c = '"' || c = '%' || c = '@' || c = '`'

/-- Characters of the short form of a tag. -/
def isTagChar (c : Char) : Bool :=
  isWord c || c = ';' || c = '/' || c = '?' || c = ':' || c = '@' || c = '&' || c = '=' ||
    c = '+' || c = '$' || c = '.' || c = '%' || c = '!' || c = '~' || c = '*' || c = '\'' ||
    c = '(' || c = ')'

/-- Characters of tags between angle brackets and of tag directives. -/
def isUriChar (c : Char) : Bool := isTagChar c || c = ',' || c = '[' || c = ']'

/-- Characters that a text may hold; other control characters are refused wherever they are. -/
def isAllowed (c : Char) : Bool :=
  let n := c.toNat
  n = 0x09 || n = 0x0A || n = 0x0D || (0x20 ≤ n && n ≤ 0x7E) || n = 0x85 ||
    (0xA0 ≤ n && n ≤ 0xFFFD) || 0x10000 ≤ n

/-- Each line end, be it CR LF, CR, LF or NEL, as one LF. -/
def unifyBreaks : List Char → List Char
  | '\r' :: '\n' :: cs => '\n' :: unifyBreaks cs
  | '\r' :: cs => '\n' :: unifyBreaks cs
  | '\u0085' :: cs => '\n' :: unifyBreaks cs
  | c :: cs => c :: unifyBreaks cs
  | [] => []

/-- What a test says of the first character; past the end it says `atEnd`. -/
def startsWith (p : Char → Bool) (atEnd : Bool) : List Char → Bool
  | [] => atEnd
  | c :: _ => p c

/-- Nothing, a blank or a line end comes next. -/
def blankAhead (cs : List Char) : Bool := startsWith (fun c => isBlank c || isBreak c) true cs

/-- Nothing or a line end comes next. -/
def breakAhead (cs : List Char) : Bool := startsWith isBreak true cs

/-- The line starts with `---` or `...` as a word of its own. -/
def markerAhead : List Char → Bool
  | '-' :: '-' :: '-' :: cs => blankAhead cs
  | '.' :: '.' :: '.' :: cs => blankAhead cs
  | _ => false

end Conform.Yaml
