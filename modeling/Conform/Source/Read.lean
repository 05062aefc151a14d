import Conform.Definition
import Conform.Json.Parser
import Conform.Source.Error
import Conform.Source.Format
import Conform.Text.Lines
import Conform.Yaml.Content
import Conform.Yaml.Json

/-!
Values, documents and schemas read from files.
-/

namespace Conform.Source

def readJson (text : String) : Except SourceFault Json :=
  match Json.parse? text with
  | some v => .ok v
  | none => .error (.json .malformed)

def ofYaml (value : Except Yaml.Fault Yaml.Value) : Except SourceFault Json :=
  match value with
  | .error f => .error (.yaml f)
  | .ok v =>
    match v.toJson? with
    | some j => .ok j
    | none => .error (.json .key)

/-- The only value of a text. -/
def readValue (text : String) : Format → Except SourceFault Json
  | .yaml => ofYaml (Yaml.Value.read text)
  | .json | .jsonLines => readJson text

/-- All documents of a text. Blank lines are no documents. -/
def readDocuments (text : String) : Format → Except SourceFault (List Json)
  | .yaml => (Yaml.Value.readAll text).mapM ofYaml
  | .json => do return [← readJson text]
  | .jsonLines => ((Text.lines text).filter fun line => !Text.allBlank line).mapM readJson

/-- The format of a file and what it holds. -/
def contents (files : Files) (path : String) : Except SourceFault (Format × String) := do
  match Format.ofPath? path with
  | none => throw .unsupportedFormat
  | some format =>
    match files.read path with
    | .ok text => return (format, text)
    | .error f => throw (.unreadable f)

/-- Ties faults to a file. -/
def located {α : Type} (path : String) (r : Except SourceFault α) : Except SourceError α :=
  r.mapError fun fault => ⟨path, fault⟩

def loadValue (files : Files) (path : String) : Except SourceError Json :=
  located path do
    let (format, text) ← contents files path
    readValue text format

def loadDocuments (files : Files) (path : String) : Except SourceError (List Json) :=
  located path do
    let (format, text) ← contents files path
    readDocuments text format

/-- The schema that a file defines over the builtin kinds. -/
def loadSchema (files : Files) (path : String) : Except SourceError Schema := do
  let definition ← loadValue files path
  located path ((Definition.schema Registry.builtin definition).mapError .definition)

end Conform.Source
