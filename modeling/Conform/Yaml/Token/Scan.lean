import Conform.Yaml.Scalar.Block
import Conform.Yaml.Scalar.Plain
import Conform.Yaml.Scalar.Quoted
import Conform.Yaml.Token.Tag

/-!
YAML texts as tokens. Indentation becomes tokens that open and close block collections. That a
node is the key of a mapping shows only at the colon after it, so the tokens before a key are
put in place once the colon is found.
-/

namespace Conform.Yaml

/-- A node that is a key if a colon follows it. -/
structure PossibleKey where
  /-- How many tokens come before it. -/
  token : Nat
  /-- It starts where the keys of the current mapping start, so it has to be one. -/
  required : Bool
  position : Position

/-- A key ends on the line where it starts, within 1024 characters. -/
def PossibleKey.isStale (p : Position) (k : PossibleKey) : Bool :=
  k.position.line < p.line || k.position.index + 1024 < p.index

structure Scanner where
  cursor : Cursor
  /-- The tokens so far, last first, and their number. -/
  tokens : List Token
  count : Nat
  /-- The columns of the open block collections, innermost first. -/
  blocks : List Nat
  /-- The last possible key of the innermost collection. -/
  key : Option PossibleKey
  /-- The possible keys around the open flow collections, innermost first. -/
  outerKeys : List (Option PossibleKey)
  /-- A key may start here. -/
  keyAllowed : Bool

/-- Goes past white space, comments and line ends. In block context a key may start on a new line,
and tabs do not count as white space where a key may start. A byte order mark may start a line. -/
def skipGap (flow keyAllowed comment : Bool) (p : Position) : List Char → Bool × Cursor
  | [] => (keyAllowed, ⟨[], p⟩)
  | c :: cs =>
    if isBreak c then skipGap flow (keyAllowed || !flow) false p.newline cs
    else if comment || c = ' ' || (c = '\t' && (flow || !keyAllowed)) ||
        (c = '\ufeff' && p.column = 0) then skipGap flow keyAllowed comment (p.skip 1) cs
    else if c = '#' then skipGap flow keyAllowed true (p.skip 1) cs
    else (keyAllowed, ⟨c :: cs, p⟩)

namespace Scanner

def ofText (cs : List Char) : Scanner := ⟨⟨cs, .start⟩, [], 0, [], none, [], true⟩

/-- Inside a flow collection. -/
def inFlow (s : Scanner) : Bool := !s.outerKeys.isEmpty

def position (s : Scanner) : Position := s.cursor.position

def column (s : Scanner) : Nat := s.position.column

def fault (problem : Problem) (s : Scanner) : Except Fault Scanner :=
  .error (.unreadable problem s.position)

def emit (t : Token) (s : Scanner) : Scanner :=
  { s with tokens := t :: s.tokens, count := s.count + 1 }

/-- Puts a token after the first `n`. -/
def insert (n : Nat) (t : Token) (s : Scanner) : Scanner :=
  let later := s.count - n
  { s with tokens := s.tokens.take later ++ t :: s.tokens.drop later, count := s.count + 1 }

def skip (n : Nat) (s : Scanner) : Scanner := { s with cursor := s.cursor.skip n }

def allowKey (b : Bool) (s : Scanner) : Scanner := { s with keyAllowed := b }

def expire (p : Position) : Option PossibleKey → Except Fault (Option PossibleKey)
  | none => .ok none
  | some k =>
    if !k.isStale p then .ok (some k)
    else if k.required then .error (.unreadable .keyWithoutValue k.position)
    else .ok none

def dropStaleKeys (s : Scanner) : Except Fault Scanner := do
  let outerKeys ← s.outerKeys.mapM (expire s.position)
  return { s with key := ← expire s.position s.key, outerKeys }

/-- What follows is no colon, so the last possible key is no key. -/
def dropKey (s : Scanner) : Except Fault Scanner :=
  match s.key with
  | some k =>
    if k.required then .error (.unreadable .keyWithoutValue k.position)
    else .ok { s with key := none }
  | none => .ok s

/-- A node starts here. -/
def noteKey (s : Scanner) : Except Fault Scanner := do
  if !s.keyAllowed then return s
  let s ← s.dropKey
  let required := !s.inFlow && s.blocks.head? == some s.column
  return { s with key := some ⟨s.count, required, s.position⟩ }

/-- Opens a block collection at a column to the right of the open ones; its token goes after the
first `n`. -/
def openBlock (column n : Nat) (t : Token) (s : Scanner) : Scanner :=
  if s.inFlow || s.blocks.head?.any (column ≤ ·) then s
  else { s.insert n t with blocks := column :: s.blocks }

def closeBlocks (closing : Nat → Bool) (s : Scanner) : Scanner :=
  if s.inFlow then s
  else
    let ended := s.blocks.takeWhile closing
    { s with
      tokens := List.replicate ended.length .blockEnd ++ s.tokens
      count := s.count + ended.length
      blocks := s.blocks.dropWhile closing }

/-- Everything that is open ends before a directive, a document marker and the end. -/
def closeAll (s : Scanner) : Except Fault Scanner := do
  let s ← (s.closeBlocks fun _ => true).dropKey
  return s.allowKey false

def openFlow (t : Token) (s : Scanner) : Except Fault Scanner := do
  let s ← s.noteKey
  let s := { s with key := none, outerKeys := s.key :: s.outerKeys }
  return ((s.allowKey true).skip 1).emit t

def closeFlow (t : Token) (s : Scanner) : Except Fault Scanner := do
  let s ← s.dropKey
  let s :=
    match s.outerKeys with
    | k :: ks => { s with key := k, outerKeys := ks }
    | [] => s
  return ((s.allowKey false).skip 1).emit t

def comma (s : Scanner) : Except Fault Scanner := do
  let s ← s.dropKey
  return ((s.allowKey true).skip 1).emit .comma

/-- Indicators of block collections stand where a key may start. -/
def blockIndicator (problem : Problem) (collection : Token) (s : Scanner) :
    Except Fault Scanner :=
  if s.inFlow then .ok s
  else if s.keyAllowed then .ok (s.openBlock s.column s.count collection)
  else s.fault problem

def entry (s : Scanner) : Except Fault Scanner := do
  let s ← (← s.blockIndicator .sequenceMisplaced .blockSequence).dropKey
  return ((s.allowKey true).skip 1).emit .entry

def explicitKey (s : Scanner) : Except Fault Scanner := do
  let s ← (← s.blockIndicator .keyMisplaced .blockMapping).dropKey
  return ((s.allowKey !s.inFlow).skip 1).emit .key

def value (s : Scanner) : Except Fault Scanner := do
  match s.key with
  | some k =>
    let s := (s.insert k.token .key).openBlock k.position.column k.token .blockMapping
    return (({ s with key := none }.allowKey false).skip 1).emit .value
  | none =>
    let s ← s.blockIndicator .valueMisplaced .blockMapping
    return ((s.allowKey !s.inFlow).skip 1).emit .value

/-- A token that may start a key, read from the current place. -/
def node (read : Cursor → Except Fault (Token × Cursor)) (s : Scanner) : Except Fault Scanner := do
  let s ← s.noteKey
  let (t, cursor) ← read s.cursor
  return { s.allowKey false with cursor }.emit t

def plain (s : Scanner) : Except Fault Scanner := do
  let s ← s.noteKey
  let indent := s.blocks.head?.elim 0 (· + 1)
  let (f, cursor) ← plainScalar s.inFlow indent .empty s.position s.cursor.rest
  return { s.allowKey f.onNewLine with cursor }.emit (.scalar f.content .plain)

def block (folded : Bool) (s : Scanner) : Except Fault Scanner := do
  let s ← s.dropKey
  let (header, c) ← BlockHeader.read (s.cursor.skip 1)
  let least := s.blocks.head?.elim 1 (· + 1)
  let indent := header.increment.map (s.blocks.head?.getD 0 + ·)
  let (text, cursor) ← blockScalar folded least false indent 0 .empty c.position c.rest
  let style := if folded then Style.folded else .literal
  return { s.allowKey true with cursor }.emit (.scalar (text.finish header.chomping) style)

def named (make : String → Token) (c : Cursor) : Except Fault (Token × Cursor) := do
  let (name, c) ← anchorName (c.skip 1)
  return (make name, c)

def quoted (read : Position → List Char → Except Fault (String × Cursor)) (c : Cursor) :
    Except Fault (Token × Cursor) := do
  let (text, c) ← read (c.position.skip 1) (c.rest.drop 1)
  return (.scalar text .quoted, c)

/-- The token that starts with `c`, with `cs` after it. -/
def token (c : Char) (cs : List Char) (s : Scanner) : Except Fault Scanner :=
  let indicates := s.inFlow || blankAhead cs
  if s.column = 0 && c = '%' then do
    let s ← s.closeAll
    let (t, cursor) ← directive (s.cursor.skip 1)
    return { s with cursor }.emit t
  else if s.column = 0 && markerAhead (c :: cs) then do
    let s ← s.closeAll
    return (s.skip 3).emit (if c = '-' then .documentStart else .documentEnd)
  else if c = '[' then s.openFlow .leftBracket
  else if c = '{' then s.openFlow .leftBrace
  else if c = ']' then s.closeFlow .rightBracket
  else if c = '}' then s.closeFlow .rightBrace
  else if c = ',' then s.comma
  else if c = '-' && blankAhead cs then s.entry
  else if c = '?' && indicates then s.explicitKey
  else if c = ':' && indicates then s.value
  else if c = '*' then s.node (named .alias)
  else if c = '&' then s.node (named .anchor)
  else if c = '!' then s.node (tag s.inFlow)
  else if c = '|' && !s.inFlow then s.block false
  else if c = '>' && !s.inFlow then s.block true
  else if c = '\'' then s.node (quoted (singleQuoted .empty))
  else if c = '"' then s.node (quoted (doubleQuoted .text .empty))
  else if isBlank c || isIndicator c then s.fault .unexpectedCharacter
  else s.plain

/-- Reads one token and what comes before it; nothing is left after the end. -/
def step (s : Scanner) : Except Fault (Scanner × Bool) := do
  let (allowed, cursor) := skipGap s.inFlow s.keyAllowed false s.position s.cursor.rest
  let s ← { s with cursor, keyAllowed := allowed }.dropStaleKeys
  let s := s.closeBlocks (s.column < ·)
  match s.cursor.rest with
  | [] => return ((← s.closeAll).emit .streamEnd, true)
  | c :: cs => return (← s.token c cs, false)

/-- Every step goes past at least one character, so `fuel` counts them. -/
def run : Nat → Scanner → List Token
  | 0, s => s.tokens.reverse
  | fuel + 1, s =>
    match s.step with
    | .error f => (.invalid f :: s.tokens).reverse
    | .ok (s, true) => s.tokens.reverse
    | .ok (s, false) => run fuel s

end Scanner

/-- The tokens of a text; the last one is its end, or says why the rest cannot be read. -/
def Token.scan (text : String) : List Token :=
  let cs := text.toList
  if cs.all isAllowed then (Scanner.ofText (unifyBreaks cs)).run (cs.length + 1)
  else [.invalid (.unreadable .controlCharacter .start)]

end Conform.Yaml
