import Conform.Power
import Conform.Yaml.Character
import Conform.Yaml.Scalar.Meaning

/-!
Texts written as scalars, each in the plainest way that reads back as the same text.
-/

namespace Conform.Yaml

inductive Writing where
  | plain
  | singleQuoted
  | doubleQuoted
  /-- A block of lines. -/
  | literal
deriving DecidableEq, Repr

namespace Writing

/-- Characters that need no escape. -/
def isPrintable (c : Char) : Bool :=
  let n := c.toNat
  n = 0x0A || (0x20 ≤ n && n ≤ 0x7E) || (0xA0 ≤ n && n ≠ 0xFEFF && n ≠ 0xFFFE && n ≠ 0xFFFF)

/-- Characters that end a line, in one of the ways in which texts may end lines. -/
def endsLine (c : Char) : Bool := isBreak c || c = '\r' || c = '\u0085'

/-- A plain scalar with this text would be read as text. -/
def readsAsText (s : String) : Bool :=
  match plainValue s with
  | .ok (.string _) => !isPadded s.toList
  | _ => false

/-- Two neighbours, the one of a first kind and the next of a second. -/
def adjacent (p q : Char → Bool) : List Char → Bool
  | a :: b :: cs => (p a && q b) || adjacent p q (b :: cs)
  | _ => false

/-- A character that may begin a plain scalar, given what follows it. -/
def plainStart : List Char → Bool
  | [] => true
  | c :: cs => if c = '?' || c = '-' then !blankAhead cs else !isIndicator c

/-- No colon that would end a key and no number sign that would begin a comment. -/
def plainInside : List Char → Bool
  | [] => true
  | c :: cs =>
    !(c = ':' && blankAhead cs) && !((isBlank c || isBreak c) && cs.head? == some '#') &&
      plainInside cs

/-- The text begins like a line between documents. -/
def likeMarker : List Char → Bool
  | '-' :: '-' :: '-' :: _ => true
  | '.' :: '.' :: '.' :: _ => true
  | _ => false

/-- No space at an end, no line end anywhere, and nothing that has a meaning in YAML. -/
def plainAllowed (cs : List Char) : Bool :=
  plainStart cs && plainInside cs && !likeMarker cs && cs.head? != some ' ' &&
    cs.getLast? != some ' ' && !cs.any isBreak

/-- How a text is written. Texts of several lines are blocks, but not those with spaces at the end
of a line, which only double quotes keep. -/
def ofText (s : String) : Writing :=
  let cs := s.toList
  if !cs.all isPrintable || adjacent (· == ' ') isBreak cs then doubleQuoted
  else if cs.contains '\n' then
    if cs.getLast? == some ' ' then doubleQuoted else literal
  else if adjacent isBreak (· == ' ') cs then doubleQuoted
  else if readsAsText s && plainAllowed cs then plain
  else singleQuoted

end Writing

def hexDigits (count n : Nat) : List Char :=
  (List.range count).reverse.map fun i => (Nat.digitChar (n / pow2 (4 * i) % 16)).toUpper

/-- A character in double quotes. -/
def escaped (c : Char) : List Char :=
  match c with
  | '\x00' => ['\\', '0']
  | '\x07' => ['\\', 'a']
  | '\x08' => ['\\', 'b']
  | '\t' => ['\\', 't']
  | '\n' => ['\\', 'n']
  | '\x0b' => ['\\', 'v']
  | '\x0c' => ['\\', 'f']
  | '\r' => ['\\', 'r']
  | '\x1b' => ['\\', 'e']
  | '"' => ['\\', '"']
  | '\\' => ['\\', '\\']
  | '\u0085' => ['\\', 'N']
  | '\u2028' => ['\\', 'L']
  | '\u2029' => ['\\', 'P']
  | c =>
    let n := c.toNat
    if Writing.isPrintable c then [c]
    else if n ≤ 0xFF then '\\' :: 'x' :: hexDigits 2 n
    else if n ≤ 0xFFFF then '\\' :: 'u' :: hexDigits 4 n
    else '\\' :: 'U' :: hexDigits 8 n

def indentation (indent : Nat) : List Char := List.replicate indent ' '

/-- Lines indented, empty ones left as they are. The flag says that a line begins. -/
def indented (indent : Nat) : Bool → List Char → List Char
  | _, [] => []
  | begins, c :: cs =>
    if isBreak c then c :: indented indent true cs
    else (if begins then indentation indent else []) ++ c :: indented indent false cs

/-- The last line end of a block belongs to more than one empty line, or to nothing else. -/
def keepsBreaks (cs : List Char) : Bool :=
  match cs.reverse with
  | [c] => isBreak c
  | c :: d :: _ => isBreak c && isBreak d
  | [] => false

/-- What the line above a block says: how far it is indented, if that cannot be seen, and what
becomes of the line ends at its end. -/
def blockHeader (cs : List Char) : List Char :=
  let first := cs.head?.any fun c => c = ' ' || isBreak c
  let last := cs.getLast?.any isBreak
  '|' :: ((if first then ['2'] else []) ++
    (if !last then ['-'] else if keepsBreaks cs then ['+'] else []) ++ ['\n'])

/-- A text as a scalar whose further lines are indented. -/
def scalarChars (indent : Nat) (s : String) : List Char :=
  let cs := s.toList
  match Writing.ofText s with
  | .plain => cs
  | .singleQuoted =>
    let doubled := cs.flatMap fun c => if c = '\'' then ['\'', '\''] else [c]
    '\'' :: indented indent false (doubled ++ ['\''])
  | .doubleQuoted => '"' :: (cs.flatMap escaped ++ ['"'])
  | .literal => blockHeader cs ++ indented indent true cs

/-- A text as a scalar at the end of a line. -/
def scalarLines (indent : Nat) (s : String) : List Char :=
  let cs := scalarChars indent s
  if cs.getLast?.any isBreak then cs else cs ++ ['\n']

end Conform.Yaml
