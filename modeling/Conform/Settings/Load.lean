import Conform.Failure
import Conform.Settings.Read

/-!
Settings from a named file, or else from the first of several places that holds any.
-/

namespace Conform

/-- Names with values that a run is given by its surroundings. -/
abbrev Environment := List (String × String)

namespace Environment

/-- The directory of the user. -/
def home? (env : Environment) : Option String :=
  (Assoc.lookup "HOME" env).filter fun path => !path.isEmpty

/-- The directory of the user's settings. Only an absolute path can replace the usual one. -/
def settingsDirectory? (env : Environment) : Option String :=
  ((Assoc.lookup "XDG_CONFIG_HOME" env).filter (·.startsWith "/")).or
    (env.home?.map fun home => Path.join home ".config")

end Environment

namespace Settings

/-- Settings that a file is expected to hold. Its extension tells YAML from JSON. -/
def loadFile (files : Files) (path : String) : Except Failure Settings := do
  let text ← (files.read path).mapError .io
  match Path.extension? path with
  | some "yaml" | some "yml" => (ofYaml text).mapError .yaml
  | _ => (ofJson text).mapError .json

/-- Where settings are looked for, the first place first. -/
def places (env : Environment) : List String :=
  [".duckhunt.yaml", ".duckhunt.yml", ".duckhunt.json"] ++
    (env.settingsDirectory?.elim [] fun directory =>
      ["duckhunt/config.yaml", "duckhunt/config.json"].map (Path.join directory)) ++
    (env.home?.elim [] fun home =>
      [".duckhunt.yaml", ".duckhunt.json"].map (Path.join home))

/-- The first settings that can be read at one of the places. -/
def find? (files : Files) (places : List String) : Option Settings :=
  places.findSome? fun path => (loadFile files path).toOption

/-- The settings of a run. A file that is asked for has to hold some; without one, what cannot be
read is passed over. -/
def load (files : Files) (env : Environment) : Option String → Except Failure Settings
  | some path =>
    if files.exist path then loadFile files path else .error (.fileNotFound path)
  | none => .ok ((find? files (places env)).getD default)

/-- The format that is asked for, or else the one that the settings name. -/
def outputFormat (asked : Option OutputFormat) (s : Settings) : Except Failure OutputFormat :=
  match asked.or (OutputFormat.ofAnyCase? s.output.format) with
  | some format => .ok format
  | none => .error (.settings (.unknownFormat s.output.format))

end Settings

end Conform
