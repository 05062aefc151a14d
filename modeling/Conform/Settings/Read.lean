import Conform.Json.Parser
import Conform.Record.Json
import Conform.Record.Yaml
import Conform.Settings.Basic

/-!
Settings read from texts.
-/

namespace Conform
variable {α ε : Type}

open FieldReader (field)

def OutputSettings.read (r : FieldReader α ε) (v : α) : Except ε OutputSettings := do
  let fields ← r.fields ["format", "color", "progress"] v
  return {
    format := ← field fields "format" r.text default.format
    color := ← field fields "color" r.flag default.color
    progress := ← field fields "progress" r.flag default.progress }

def LogPreference.read (r : FieldReader α ε) (v : α) : Except ε LogPreference := do
  let fields ← r.fields ["level", "format"] v
  return {
    level := ← field fields "level" r.optionalText default.level
    format := ← field fields "format" r.optionalText default.format }

def Limits.read (r : FieldReader α ε) (v : α) : Except ε Limits := do
  let fields ← r.fields ["fail_fast", "max_failures"] v
  return {
    failFast := ← field fields "fail_fast" r.flag unlimited.failFast
    maxFailures := ← field fields "max_failures" r.size unlimited.maxFailures }

namespace Settings

/-- Settings in a record; what it leaves out is as without it. -/
def read (r : FieldReader α ε) (v : α) : Except ε Settings := do
  let fields ← r.fields ["output", "logging", "validation"] v
  return {
    output := ← field fields "output" (OutputSettings.read r) default.output
    logging := ← field fields "logging" (LogPreference.read r) default.logging
    limits := ← field fields "validation" (Limits.read r) default.limits }

def ofJson (text : String) : Except JsonFault Settings :=
  match Json.read? text with
  | some v => read Json.fieldReader v
  | none => .error .malformed

def ofYaml (text : String) : Except Yaml.Fault Settings := do
  let d ← Yaml.Document.read text
  read d.fieldReader d.root

end Settings

end Conform
