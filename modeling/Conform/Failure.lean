import Conform.Logging.Filter
import Conform.Property
import Conform.Source.Error

/-!
Why a run of the program fails, and what it tells about it.
-/

namespace Conform

inductive SettingsFault where
  | unknownFormat (name : String)
  | logLevel (level : String) (cause : LogFilter.Fault)
deriving DecidableEq, Repr

def SettingsFault.message : SettingsFault → String
  | .unknownFormat name => "unknown output format `" ++ name ++ "`"
  | .logLevel level cause => "invalid log level `" ++ level ++ "`: " ++ cause.message

inductive Failure where
  | io (cause : ReadFault)
  /-- A schema or documents cannot be had from a file. -/
  | source (cause : SourceError)
  /-- A schema does not apply to a document. -/
  | schema (cause : SchemaError)
  | fileNotFound (path : String)
  | settings (cause : SettingsFault)
  /-- Two limits are asked for that exclude each other. -/
  | conflictingLimits
  /-- Some of the documents that were checked are invalid. -/
  | invalid (failures checked : Nat)
  | json (cause : JsonFault)
  | yaml (cause : Yaml.Fault)
  /-- A remainder has no value. -/
  | remainder
deriving DecidableEq, Repr

namespace Failure

def ofFault : Fault → Failure
  | .schema cause => schema cause
  | .remainder => remainder

def message : Failure → String
  | io cause => "IO error: " ++ cause.message
  | source cause => cause.message
  | schema cause => "Schema error: " ++ cause.message
  | fileNotFound path => "File not found: " ++ path
  | settings cause => "Configuration error: " ++ cause.message
  | conflictingLimits =>
    "Invalid arguments: --fail-fast and --max-failures cannot be combined"
  | invalid failures checked =>
    toString failures ++ " of " ++ toString checked ++ " document(s) failed validation"
  | json cause => "JSON error: " ++ cause.message
  | yaml cause => "YAML error: " ++ cause.message
  | remainder => "attempt to calculate the remainder with overflow"

/-- Each kind of failure has an exit code of its own. -/
def exitCode : Failure → Nat
  | invalid .. => 1
  | io _ => 2
  | fileNotFound _ => 3
  | source _ => 4
  | schema _ => 5
  | settings _ => 6
  | conflictingLimits => 7
  | json _ => 12
  | yaml _ => 13
  | remainder => 101

/-- The command line itself is at fault, so a hint at its help is of use. -/
def showsHelp : Failure → Bool
  | conflictingLimits => true
  | _ => false

end Failure

end Conform
