import Conform.Files
import Conform.Json.Fault
import Conform.SchemaError
import Conform.Yaml.Fault

/-!
Why a file does not give what is asked of it.
-/

namespace Conform

inductive SourceFault where
  | unreadable (cause : ReadFault)
  | yaml (cause : Yaml.Fault)
  | json (cause : JsonFault)
  | unsupportedFormat
  /-- The file holds a value that defines no schema. -/
  | definition (cause : SchemaError)
deriving DecidableEq, Repr

/-- A fault and the file it concerns. -/
structure SourceError where
  path : String
  fault : SourceFault
deriving DecidableEq, Repr

/-- The file cannot be read as a value at all. -/
def SourceFault.isParseError : SourceFault → Bool
  | definition _ => false
  | _ => true

/-- What went wrong with which file. -/
def SourceError.summary (e : SourceError) : String :=
  let quoted := "'" ++ e.path ++ "'"
  match e.fault with
  | .unreadable _ => "Failed to read file " ++ quoted
  | .yaml _ => "Failed to parse YAML file " ++ quoted
  | .json _ => "Failed to parse JSON file " ++ quoted
  | .unsupportedFormat =>
    "Unsupported file format for " ++ quoted ++ ". Expected .yaml, .yml, .json or .jsonl"
  | .definition _ => "Invalid schema definition in " ++ quoted

/-- The cause behind a fault. -/
def SourceFault.detail? : SourceFault → Option String
  | unreadable cause => some cause.message
  | yaml cause => some cause.message
  | json cause => some cause.message
  | unsupportedFormat => none
  | definition cause => some cause.message

def SourceError.message (e : SourceError) : String :=
  match e.fault.detail? with
  | some detail => e.summary ++ ": " ++ detail
  | none => e.summary

end Conform
