import Conform.Json.Printer
import Conform.Yaml.Scalar.Writing

/-!
JSON values written as YAML documents: collections in blocks, indented by two spaces.
-/

namespace Conform.Yaml
open Json (joined)

/-- Keys of at most 128 bytes on one line come before a colon; others get a question mark. -/
def isShortKey (key : String) : Bool :=
  key.utf8ByteSize ≤ 128 && !key.toList.any Writing.endsLine

/-- Parts that begin in the same column. -/
def aligned (indent : Nat) (parts : List (List Char)) : List Char :=
  joined (indentation indent) parts

mutual

/-- A value that begins in a column, with its line ends. -/
def blockChars (indent : Nat) : Json → List Char
  | .string s => scalarLines indent s
  | .array [] => ['[', ']', '\n']
  | .object [] => ['{', '}', '\n']
  | .array items => aligned indent (itemBlocks indent items)
  | .object fields => aligned indent (fieldBlocks indent fields)
  | v => v.chars ++ ['\n']

/-- Items begin after their dash. -/
def itemBlocks (indent : Nat) : List Json → List (List Char)
  | [] => []
  | v :: rest => ('-' :: ' ' :: blockChars (indent + 2) v) :: itemBlocks indent rest

def fieldBlocks (indent : Nat) : List (String × Json) → List (List Char)
  | [] => []
  | (k, v) :: rest =>
    (if isShortKey k then scalarChars indent k ++ ':' :: fieldChars indent v
    else
      '?' :: ' ' :: scalarLines (indent + 2) k ++ indentation indent ++
        ':' :: ' ' :: blockChars (indent + 2) v) :: fieldBlocks indent rest

/-- The value of a field in a column. Items begin in that column too, fields further in. -/
def fieldChars (indent : Nat) : Json → List Char
  | .string s => ' ' :: scalarLines (indent + 2) s
  | .array [] => [' ', '[', ']', '\n']
  | .object [] => [' ', '{', '}', '\n']
  | .array items => '\n' :: indentation indent ++ aligned indent (itemBlocks indent items)
  | .object fields =>
    '\n' :: indentation (indent + 2) ++ aligned (indent + 2) (fieldBlocks (indent + 2) fields)
  | v => ' ' :: (v.chars ++ ['\n'])

end

mutual

/-- The texts in a value, as they are written one after the other. -/
def texts : Json → List String
  | .string s => [s]
  | .array items => itemTexts items
  | .object fields => fieldTexts fields
  | _ => []

def itemTexts : List Json → List String
  | [] => []
  | v :: rest => texts v ++ itemTexts rest

def fieldTexts : List (String × Json) → List String
  | [] => []
  | (k, v) :: rest => k :: (texts v ++ fieldTexts rest)

end

/-- The last block of lines is one with empty lines at its end, so a marker has to tell where the
document ends. -/
def isOpenEnded (v : Json) : Bool :=
  (((texts v).filter fun s => Writing.ofText s = .literal).getLast?).any fun s =>
    keepsBreaks s.toList

def documentChars (v : Json) : List Char :=
  (match v with
    | .string s => scalarLines 2 s
    | v => blockChars 0 v) ++
  if isOpenEnded v then ['.', '.', '.', '\n'] else []

/-- A value as a document. -/
def print (v : Json) : String := String.ofList (documentChars v)

end Conform.Yaml
