import Conform.Json.Printer
import Conform.Yaml.Printer

/-!
Formats of what the program writes.
-/

namespace Conform

inductive OutputFormat where
  /-- Prose and tables for readers. -/
  | human
  | json
  | yaml
  | jsonPretty
deriving DecidableEq, Repr

namespace OutputFormat

def all : List OutputFormat := [human, json, yaml, jsonPretty]

def name : OutputFormat → String
  | human => "human"
  | json => "json"
  | yaml => "yaml"
  | jsonPretty => "json-pretty"

/-- The format with exactly this name. -/
def ofName? (name : String) : Option OutputFormat := all.find? fun format => format.name == name

/-- The format with a name in any letter case. -/
def ofAnyCase? (name : String) : Option OutputFormat := ofName? name.toLower

/-- Data in a format. Readers get them as indented JSON. -/
def render (v : Json) : OutputFormat → String
  | human | jsonPretty => v.pretty
  | json => v.compress
  | yaml => Yaml.print v

end OutputFormat

end Conform
