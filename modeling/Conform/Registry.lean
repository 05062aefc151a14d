import Conform.Container

/-!
Registries: what the names of kinds and validators stand for.
-/

namespace Conform
open Text (normalizeKey)

/-- Makes a validator from its configuration. -/
abbrev ValidatorFactory := Json → Except SchemaError Validator

/-- Validators by normalized name. -/
abbrev ValidatorTable := List (String × ValidatorFactory)

/-- What a factory reads of the registry that it is called by: what the names of kinds stand for,
and the validators. The lists of names and the building of further kinds are not passed on; no kind
of the library uses them. -/
structure Directory where
  resolve : String → Except SchemaError String
  validators : ValidatorTable

/-- Makes a property from its options and the directory of the registry. -/
abbrev PropertyFactory := Options → Directory → Except SchemaError Property

structure Registry where
  kinds : List (String × PropertyFactory)
  aliases : List (String × String)
  validators : ValidatorTable

def ValidatorTable.build (table : ValidatorTable) (name : String) (config : Json) :
    Except SchemaError Validator :=
  match Assoc.lookup (normalizeKey name) table with
  | some factory => factory config
  | none => .error (.unknownValidator name)

/-- Every option of a leaf other than `required` and `allow_nil` names a validator. -/
def Leaf.addOptions (table : ValidatorTable) : List (String × Json) → Leaf → Except SchemaError Leaf
  | [], leaf => .ok leaf
  | (name, config) :: rest, leaf => do
    let validator ← table.build name config
    addOptions table rest (← leaf.addValidator validator)

def Leaf.ofOptions (kind : String) (test : TypeTest) (options : Options)
    (table : ValidatorTable) : Except SchemaError Leaf :=
  let taking : Attempt Options Leaf := do
    let required ← Options.takeBool "required" true
    let allowNil ← Options.takeBool "allow_nil" false
    return { Leaf.new kind test with required := required, allowNil := allowNil }
  match taking.outcome options with
  | (.ok leaf, rest) => leaf.addOptions table rest.entries
  | (.error e, _) => .error e

namespace Registry

/-- Leaves of a kind; of the null kind all allow null, whatever their options say. -/
def leafFactory (kind : String) (test : TypeTest) (forceNil : Bool) : PropertyFactory :=
  fun options directory => do
    let leaf ← Leaf.ofOptions kind test options directory.validators
    return .leaf (if forceNil then { leaf with allowNil := true } else leaf)

def arrayFactory : PropertyFactory := fun options _ =>
  (ArraySchema.ofOptions options).map .array

def hashFactory : PropertyFactory := fun options _ =>
  (HashSchema.ofOptions options).map .hash

def empty : Registry := ⟨[], [], []⟩

/-- Stores a kind under its normalized name, which then is no alias any more. -/
def registerKind (name : String) (factory : PropertyFactory) (r : Registry) : Registry :=
  let name := normalizeKey name
  { r with kinds := Assoc.store name factory r.kinds, aliases := Assoc.erase name r.aliases }

def registerLeafKind (name : String) (test : TypeTest) (r : Registry) : Registry :=
  let kind := normalizeKey name
  r.registerKind kind (leafFactory kind test false)

def registerValidator (name : String) (factory : ValidatorFactory) (r : Registry) : Registry :=
  { r with validators := Assoc.store (normalizeKey name) factory r.validators }

/-- The kind that a name stands for; kinds go before aliases. -/
def resolve (kind : String) (r : Registry) : Except SchemaError String :=
  let key := normalizeKey kind
  if Assoc.contains key r.kinds then .ok key
  else
    match Assoc.lookup key r.aliases with
    | some name => .ok name
    | none => .error (.unknownKind kind)

/-- Makes a name stand for what another name stands for now. -/
def registerAlias (other kind : String) (r : Registry) : Except SchemaError Registry := do
  let name ← r.resolve kind
  return { r with aliases := Assoc.store (normalizeKey other) name r.aliases }

def hasKind (kind : String) (r : Registry) : Bool :=
  match r.resolve kind with
  | .ok _ => true
  | .error _ => false

def hasValidator (name : String) (r : Registry) : Bool :=
  Assoc.contains (normalizeKey name) r.validators

def directory (r : Registry) : Directory := ⟨fun kind => r.resolve kind, r.validators⟩

def buildProperty (kind : String) (options : Options) (r : Registry) :
    Except SchemaError Property := do
  let name ← r.resolve kind
  match Assoc.lookup name r.kinds with
  | some factory => factory options r.directory
  | none => throw (.unknownKind kind)

def buildValidator (name : String) (config : Json) (r : Registry) :
    Except SchemaError Validator :=
  r.validators.build name config

/-- The names of kinds in increasing order. -/
def kindNames (r : Registry) : List String := Assoc.keys (Assoc.sorted r.kinds)

def aliasList (r : Registry) : List (String × String) := Assoc.sorted r.aliases

def validatorNames (r : Registry) : List String := Assoc.keys (Assoc.sorted r.validators)

/-- The leaf kinds that every registry starts with. -/
def leafKinds : List (String × TypeTest) := [
  ("string", .string), ("integer", .integer), ("float", .float), ("number", .number),
  ("boolean", .boolean), ("nil", .null)]

/-- The builtin kinds, aliases and validators. -/
def builtin : Registry :=
  { kinds := leafKinds.map (fun (kind, test) => (kind, leafFactory kind test (kind == "nil"))) ++
      [(arrayKind, arrayFactory), (hashKind, hashFactory)]
    aliases := [("hash", hashKind), ("object", hashKind)]
    validators := Validator.builtinNames.map fun name => (name, Validator.build name) }

end Registry

end Conform
