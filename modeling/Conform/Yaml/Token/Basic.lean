import Conform.Yaml.Fault

/-!
Tokens of YAML texts.
-/

namespace Conform.Yaml

/-- How a scalar is written. -/
inductive Style where
  | plain
  | quoted
  | literal
  | folded
deriving DecidableEq, Repr

inductive Token where
  | version (major minor : Nat)
  /-- Within a document, a handle stands for the beginning of a tag. -/
  | handle (name beginning : String)
  | documentStart
  | documentEnd
  | blockSequence
  | blockMapping
  | blockEnd
  | leftBracket
  | rightBracket
  | leftBrace
  | rightBrace
  /-- The dash of a block sequence. -/
  | entry
  | comma
  | key
  | value
  | alias (name : String)
  | anchor (name : String)
  /-- The handle is empty if the suffix is the whole tag. -/
  | tag (handle suffix : String)
  | scalar (text : String) (style : Style)
  | streamEnd
  /-- From here on the text cannot be read. -/
  | invalid (fault : Fault)
deriving DecidableEq, Repr

end Conform.Yaml
