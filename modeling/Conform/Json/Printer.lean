import Conform.Json.Basic

/-!
JSON values written as text, on one line or indented by two spaces.
-/

namespace Conform.Json

def hexChar (n : Nat) : Char := Nat.digitChar (n % 16)

/-- A character inside quotes: only quotes, backslashes and control characters are escaped. -/
def escapeChar (c : Char) : List Char :=
  match c with
  | '"' => ['\\', '"']
  | '\\' => ['\\', '\\']
  | '\x08' => ['\\', 'b']
  | '\x0c' => ['\\', 'f']
  | '\n' => ['\\', 'n']
  | '\r' => ['\\', 'r']
  | '\t' => ['\\', 't']
  | c =>
    if c.toNat < 0x20 then ['\\', 'u', '0', '0', hexChar (c.toNat / 16), hexChar c.toNat]
    else [c]

def quoted (s : String) : List Char := '"' :: (s.toList.flatMap escapeChar ++ ['"'])

/-- Parts with a separator between neighbours. -/
def joined (separator : List Char) : List (List Char) → List Char
  | [] => []
  | [p] => p
  | p :: ps => p ++ separator ++ joined separator ps

mutual

/-- The compact spelling. -/
def chars : Json → List Char
  | .null => ['n', 'u', 'l', 'l']
  | .bool true => ['t', 'r', 'u', 'e']
  | .bool false => ['f', 'a', 'l', 's', 'e']
  | .number n => n.chars
  | .string s => quoted s
  | .array items => '[' :: (joined [','] (itemChars items) ++ [']'])
  | .object fields => '{' :: (joined [','] (fieldChars fields) ++ ['}'])

def itemChars : List Json → List (List Char)
  | [] => []
  | v :: rest => chars v :: itemChars rest

def fieldChars : List (String × Json) → List (List Char)
  | [] => []
  | (k, v) :: rest => (quoted k ++ ':' :: chars v) :: fieldChars rest

end

/-- The value on one line, without spaces. -/
def compress (v : Json) : String := String.ofList v.chars

/-- A string as it is, any other value as its compact text. -/
def display : Json → String
  | .string s => s
  | v => v.compress

private def newline (depth : Nat) : List Char := '\n' :: List.replicate (2 * depth) ' '

mutual

def prettyChars (depth : Nat) : Json → List Char
  | .array [] => ['[', ']']
  | .object [] => ['{', '}']
  | .array items =>
    '[' :: newline (depth + 1) ++
      joined (',' :: newline (depth + 1)) (prettyItems (depth + 1) items)
      ++ newline depth ++ [']']
  | .object fields =>
    '{' :: newline (depth + 1) ++
      joined (',' :: newline (depth + 1)) (prettyFields (depth + 1) fields)
      ++ newline depth ++ ['}']
  | v => chars v

def prettyItems (depth : Nat) : List Json → List (List Char)
  | [] => []
  | v :: rest => prettyChars depth v :: prettyItems depth rest

def prettyFields (depth : Nat) : List (String × Json) → List (List Char)
  | [] => []
  | (k, v) :: rest => (quoted k ++ ':' :: ' ' :: prettyChars depth v) :: prettyFields depth rest

end

/-- One item or field a line, containers indented by two spaces. -/
def pretty (v : Json) : String := String.ofList (v.prettyChars 0)

end Conform.Json
