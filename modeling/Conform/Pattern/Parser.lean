import Conform.Pattern.Bracket
import Conform.Pattern.Size

/-!
Patterns read from text: groups, flags, choices and repetitions.
-/

namespace Conform.Pattern

/-- What stands in a sequence. A change of flags matches nothing and cannot be repeated. -/
inductive Item where
  | pattern (p : Nested Pattern)
  | flags

namespace Item

def pattern? : Item → Option Pattern
  | pattern p => some p.value
  | flags => none

def depth : Item → Nat
  | pattern p => p.depth
  | flags => 0

end Item

/-- A group part way through, and the flags to return to after it. -/
structure GroupFrame where
  choices : List (Nested Pattern)
  items : List Item
  flags : Flags

/-- A pattern part way through; lists are kept last element first. -/
structure Partial where
  flags : Flags
  choices : List (Nested Pattern)
  items : List Item
  groups : List GroupFrame
  names : List String

namespace Partial

def initial : Partial := ⟨Flags.initial, [], [], [], []⟩

def push (p : Nested Pattern) (s : Partial) : Partial :=
  { s with items := .pattern p :: s.items }

/-- The sequence read last. -/
def sequence (s : Partial) : Nested Pattern where
  value := concatAll (s.items.reverse.filterMap Item.pattern?)
  depth := joinedDepth (s.items.map Item.depth)

/-- The choice between the sequences read. -/
def choice (s : Partial) : Nested Pattern :=
  let choices := s.sequence :: s.choices
  let value :=
    match (choices.map Nested.value).reverse with
    | [] => .empty
    | p :: ps => altAll p ps
  ⟨value, joinedDepth (choices.map Nested.depth)⟩

/-- Repeats the last item. -/
def loop (least : Nat) (most : Option Nat) (s : Partial) : Except String Partial :=
  match s.items with
  | .pattern p :: items =>
    .ok { s with items := .pattern ⟨.loop p.value least most, p.depth + 1⟩ :: items }
  | _ => .error "nothing to repeat"

def openGroup (inner : Flags) (s : Partial) : Partial :=
  { s with
    flags := inner
    choices := []
    items := []
    groups := ⟨s.choices, s.items, s.flags⟩ :: s.groups }

def closeGroup (s : Partial) : Except String Partial :=
  match s.groups with
  | [] => .error "unopened group"
  | g :: groups =>
    let group := ⟨s.choice.value, s.choice.depth + 1⟩
    .ok ⟨g.flags, g.choices, .pattern group :: g.items, groups, s.names⟩

def nextChoice (s : Partial) : Partial :=
  { s with choices := s.sequence :: s.choices, items := [] }

end Partial

/-- Turns a flag on or off. Flags that only concern where a match ends have no effect here. -/
def Flags.set? (c : Char) (on : Bool) (f : Flags) : Option Flags :=
  match c with
  | 'i' => some { f with insensitive := on }
  | 'm' => some { f with multiline := on }
  | 's' => some { f with dotAll := on }
  | 'u' => some { f with unicode := on }
  | 'R' => some { f with crlf := on }
  | 'x' => some { f with verbose := on }
  | 'U' => some f
  | _ => none

/-- Reads flags up to the colon or parenthesis behind them; a hyphen turns off those that follow.
No flag and no hyphen occurs twice, and the hyphen is not last. -/
def readFlags (f : Flags) (seen : List Char) : List Char → Except String (Flags × List Char × Bool)
  | [] => .error "unfinished flags"
  | c :: cs =>
    if c = ':' ∨ c = ')' then
      match seen with
      | '-' :: _ => .error "no flags after the hyphen"
      | _ => .ok (f, c :: cs, seen.isEmpty)
    else if seen.contains c then .error "repeated flag"
    else if c = '-' then readFlags f ('-' :: seen) cs
    else
      match f.set? c (!seen.contains '-') with
      | some f => readFlags f (c :: seen) cs
      | none => .error "no such flag"

/-- Characters of a group's name; the first one is no number, dot or bracket. -/
def isNameChar (isFirst : Bool) (c : Char) : Bool :=
  c = '_' || Unicode.alphabetic.contains c ||
    (!isFirst && (c = '.' || c = '[' || c = ']' || Unicode.number.contains c))

def readGroupName (names : List String) (cs : List Char) : Except String (String × List Char) :=
  match cs.takeWhile (· ≠ '>'), cs.dropWhile (· ≠ '>') with
  | _, [] => .error "unfinished group name"
  | [], _ => .error "empty group name"
  | c :: name, _ :: rest =>
    if !isNameChar true c || !name.all (isNameChar false) then .error "invalid group name"
    else if names.contains (String.ofList (c :: name)) then .error "repeated group name"
    else .ok (String.ofList (c :: name), rest)

/-- Reads what follows an opening parenthesis. -/
def readGroup (s : Partial) (cs : List Char) : Except String (Partial × List Char) := do
  let named := fun rest => do
    let (name, rest) ← readGroupName s.names rest
    return ({ s.openGroup s.flags with names := name :: s.names }, rest)
  match s.flags.skip cs with
  | '?' :: '=' :: _ => throw "look-around is not supported"
  | '?' :: '!' :: _ => throw "look-around is not supported"
  | '?' :: '<' :: '=' :: _ => throw "look-around is not supported"
  | '?' :: '<' :: '!' :: _ => throw "look-around is not supported"
  | '?' :: 'P' :: '<' :: rest => named rest
  | '?' :: '<' :: rest => named rest
  | '?' :: rest =>
    let (f, rest, isEmpty) ← readFlags s.flags [] rest
    match rest with
    | ')' :: rest =>
      if isEmpty then throw "nothing to repeat"
      return ({ s with flags := f, items := .flags :: s.items }, rest)
    | rest => return (s.openGroup f, rest.drop 1)
  | rest => return (s.openGroup s.flags, rest)

/-- Counts are below this. -/
def countLimit : Nat := pow2 32

/-- Reads a count with blanks around it; none where no digit stands. -/
def readCount (f : Flags) (cs : List Char) : Except String (Option Nat × List Char) :=
  let cs := (f.skip cs).dropWhile Text.isBlank
  let digits := cs.takeWhile fun c => c.isDigit || (f.verbose && Text.isBlank c)
  let rest := (f.skip (cs.drop digits.length)).dropWhile Text.isBlank
  match digits.filter Char.isDigit with
  | [] => .ok (none, cs)
  | ds =>
    let n := Nat.ofDigitChars 10 ds 0
    if n < countLimit then .ok (some n, rest) else .error "the count is too large"

/-- Reads the counts of a repetition after an opening brace. -/
def readCounts (f : Flags) (cs : List Char) : Except String (Nat × Option Nat × List Char) := do
  let (least, rest) ← readCount f cs
  let some least := least | throw "the count is missing"
  match rest with
  | '}' :: rest => return (least, some least, rest)
  | ',' :: rest =>
    match f.skip rest with
    | '}' :: rest => return (least, none, rest)
    | rest =>
      let (most, rest) ← readCount f rest
      let some most := most | throw "the count is missing"
      match rest with
      | '}' :: rest =>
        if most < least then throw "the counts are reversed"
        return (least, some most, rest)
      | _ => throw "unclosed repetition"
  | _ => throw "unclosed repetition"

/-- A question mark after a repetition only says which match is preferred. -/
def dropLazy : List Char → List Char
  | '?' :: cs => cs
  | cs => cs

/-- Reads one item; its first character is given. -/
def readItem (s : Partial) (c : Char) (cs : List Char) : Except String (Partial × List Char) := do
  let f := s.flags
  let leaf := fun p : Pattern => s.push ⟨p, 0⟩
  let anchor := fun (inLine : Bool → Look) (inText : Look) =>
    leaf (.look (if f.multiline then inLine f.crlf else inText))
  match c with
  | '(' => readGroup s cs
  | ')' => return (← s.closeGroup, cs)
  | '|' => return (s.nextChoice, cs)
  | '[' =>
    let (members, rest) ← readBracket f cs
    return (s.push ⟨.set members.value, members.depth⟩, rest)
  | '?' => return (← s.loop 0 (some 1), dropLazy cs)
  | '*' => return (← s.loop 0 none, dropLazy cs)
  | '+' => return (← s.loop 1 none, dropLazy cs)
  | '{' =>
    let _ ← s.loop 0 none
    let (least, most, rest) ← readCounts f cs
    return (← s.loop least most, dropLazy (f.skip rest))
  | '.' => return (leaf (.set (← f.dot)), cs)
  | '^' => return (anchor .lineStart .textStart, cs)
  | '$' => return (anchor .lineEnd .textEnd, cs)
  | '\\' =>
    let (e, rest) ← readEscape f cs
    match e with
    | .char c => return (leaf (.set (f.fold (CharSet.single c))), rest)
    | .byte n =>
      if !f.unicode && 128 ≤ n then throw "the byte is no text"
      return (leaf (.set (f.fold (CharSet.range n n))), rest)
    | .set members => return (leaf (.set members), rest)
    | .look l => return (leaf (.look l), rest)
  | c => return (leaf (.set (f.fold (CharSet.single c))), cs)

/-- Reads items to the end. Each round takes a character at least, so the length of the text
suffices for `fuel`. -/
def readItems : Nat → Partial → List Char → Except String (Nested Pattern)
  | 0, _, _ => .error "unfinished pattern"
  | fuel + 1, s, cs => do
    match s.flags.skip cs with
    | [] => if s.groups.isEmpty then return s.choice else throw "unclosed group"
    | c :: cs =>
      let (s, rest) ← readItem s c cs
      readItems fuel s rest

/-- The pattern that a text spells, or what is wrong with the text. -/
def parse (text : String) : Except String Pattern := do
  let cs := text.toList
  let p ← readItems (cs.length + 1) Partial.initial cs
  if maxDepth < p.depth then throw "the pattern nests too deep"
  if maxSize < p.value.size then throw "the pattern is too large"
  return p.value

end Conform.Pattern
