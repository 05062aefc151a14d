import Conform.Path
import Conform.Text.Case

/-!
Formats of files, known by their extensions.
-/

namespace Conform

inductive Format where
  /-- A file may hold several documents. -/
  | yaml
  | json
  /-- One JSON document a line. -/
  | jsonLines
deriving DecidableEq, Repr

namespace Format

/-- The extensions of a format, the usual one first. -/
def extensions : Format → List String
  | yaml => ["yaml", "yml"]
  | json => ["json"]
  | jsonLines => ["jsonl", "ndjson"]

def primaryExtension : Format → String
  | yaml => "yaml"
  | json => "json"
  | jsonLines => "jsonl"

/-- The format with an extension, in any letter case. -/
def ofExtension? (extension : String) : Option Format :=
  let lower := String.ofList (extension.toList.flatMap Text.lowercase)
  [yaml, json, jsonLines].find? fun format => format.extensions.contains lower

def ofPath? (path : String) : Option Format := (Path.extension? path).bind ofExtension?

end Format

end Conform
