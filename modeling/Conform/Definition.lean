import Conform.Builder.Array

/-!
Schemas described as data: a definition is the name of a kind, or an object whose `type` names one.
-/

namespace Conform.Definition

/-- The keys of a definition that are not options. -/
def structuralKeys : List String := ["type", "properties", "element", "items", "optional_items"]

/-- A place of a definition: its kind as written, and all its keys. -/
structure Node where
  path : String
  kind : String
  fields : List (String × Json)

def fail {α : Type} (path : String) (fault : DefinitionFault) : Except SchemaError α :=
  .error (.invalidDefinition path fault)

/-- Faults that are not tied to a place of the definition yet are tied to this one. -/
def located {α : Type} (path : String) (r : Except SchemaError α) : Except SchemaError α :=
  r.mapError (SchemaError.anchored path)

namespace Node

def ofJson (path : String) : Json → Except SchemaError Node
  | .string kind => .ok ⟨path, kind, []⟩
  | .object fields =>
    match Assoc.lookup "type" fields with
    | some (.string kind) => .ok ⟨path, kind, fields⟩
    | some _ => fail path .typeNotString
    | none => fail path .typeMissing
  | _ => fail path .notDefinition

def resolve (registry : Registry) (n : Node) : Except SchemaError String :=
  located n.path (registry.resolve n.kind)

/-- Refuses keys that mean nothing for the kind. -/
def reject (keys : List String) (n : Node) : Except SchemaError Unit :=
  match keys.find? fun key => Assoc.contains key n.fields with
  | some key => fail n.path (.misplaced key n.kind)
  | none => .ok ()

def optionFields (n : Node) : List (String × Json) :=
  n.fields.filter fun field => !structuralKeys.contains field.1

def options (n : Node) : Except SchemaError Options :=
  located n.path (Options.empty.insertAll n.optionFields)

end Node

/-- What was built from the structural keys of a node. -/
structure Parts where
  children : Except SchemaError (List (String × Property))
  element : Except SchemaError (Option Property)
  items : Except SchemaError (Option (List Property))
  optionalItems : Except SchemaError (Option (List Property))

def Parts.none : Parts := ⟨.ok [], .ok .none, .ok .none, .ok .none⟩

def hash (n : Node) (parts : Parts) : Except SchemaError (HashSchema Property) := do
  n.reject ["element", "items", "optional_items"]
  let children ← parts.children
  let options ← n.options
  let block : HashBuilder.Step Id := children.forM fun (name, property) =>
    HashBuilder.insert name property
  located n.path (Id.run (HashSchema.defineWith options block))

def array (n : Node) (parts : Parts) : Except SchemaError (ArraySchema Property) := do
  n.reject ["properties"]
  let element ← parts.element
  let items ← parts.items
  let optionalItems ← parts.optionalItems
  let options ← n.options
  let block : ArrayBuilder.Step Id := do
    if let some property := element then ArrayBuilder.set property
    if let some properties := items then ArrayBuilder.items (properties.forM TupleBuilder.push)
    if let some properties := optionalItems then
      ArrayBuilder.optionalItems (properties.forM TupleBuilder.push)
  located n.path (Id.run (ArraySchema.defineWith options block))

def leaf (registry : Registry) (kind : String) (n : Node) : Except SchemaError Property := do
  n.reject ["properties", "element", "items", "optional_items"]
  let options ← n.options
  located n.path (registry.buildProperty kind options)

/-- The property that a node describes, from the parts built for it. -/
def assemble (registry : Registry) (path : String) (definition : Json) (parts : Parts) :
    Except SchemaError Property := do
  let n ← Node.ofJson path definition
  let kind ← n.resolve registry
  if kind = hashKind then return .hash (← hash n parts)
  else if kind = arrayKind then return .array (← array n parts)
  else leaf registry kind n

mutual

/-- Builds any property; faults are located from a path on. -/
def property (registry : Registry) (path : String) : Json → Except SchemaError Property
  | .object fields =>
    assemble registry path (.object fields)
      ⟨children registry path fields, element registry path fields,
        positions registry path "items" fields, positions registry path "optional_items" fields⟩
  | definition => assemble registry path definition .none

/-- The properties under the key `properties`; null stands for none. -/
def children (registry : Registry) (path : String) :
    List (String × Json) → Except SchemaError (List (String × Property))
  | [] => .ok []
  | (key, value) :: rest =>
    if key = "properties" then
      match value with
      | .null => .ok []
      | .object fields => properties registry path fields
      | _ => fail path .propertiesNotObject
    else children registry path rest

/-- One property a key, in order. -/
def properties (registry : Registry) (path : String) :
    List (String × Json) → Except SchemaError (List (String × Property))
  | [] => .ok []
  | (name, definition) :: rest => do
    let p ← property registry (path ++ ".properties." ++ name) definition
    return (name, p) :: (← properties registry path rest)

/-- The property under the key `element`. -/
def element (registry : Registry) (path : String) :
    List (String × Json) → Except SchemaError (Option Property)
  | [] => .ok none
  | (key, value) :: rest =>
    if key = "element" then
      match value with
      | .null => .ok none
      | definition => (property registry (path ++ ".element") definition).map some
    else element registry path rest

/-- The properties in the array under a key. -/
def positions (registry : Registry) (path key : String) :
    List (String × Json) → Except SchemaError (Option (List Property))
  | [] => .ok none
  | (k, value) :: rest =>
    if k = key then
      match value with
      | .null => .ok none
      | .array definitions => (elements registry (path ++ "." ++ key) 0 definitions).map some
      | _ => fail path (.itemsNotArray key)
    else positions registry path key rest

/-- One property an index, from an index on. -/
def elements (registry : Registry) (path : String) (index : Nat) :
    List Json → Except SchemaError (List Property)
  | [] => .ok []
  | definition :: rest => do
    let p ← property registry (path ++ "[" ++ toString index ++ "]") definition
    return p :: (← elements registry path (index + 1) rest)

end

/-- The path of a whole definition. -/
def root : String := "$"

/-- The parts built from the structural keys of a definition. -/
def parts (registry : Registry) (path : String) : Json → Parts
  | .object fields =>
    ⟨children registry path fields, element registry path fields,
      positions registry path "items" fields, positions registry path "optional_items" fields⟩
  | _ => .none

/-- Builds a schema for whole documents, which has to be a hash or an array. -/
def schema (registry : Registry) (definition : Json) : Except SchemaError Schema := do
  let n ← Node.ofJson root definition
  let kind ← n.resolve registry
  if kind = hashKind then return .hash (← hash n (parts registry root definition))
  else if kind = arrayKind then return .array (← array n (parts registry root definition))
  else fail root (.notContainer kind)

end Conform.Definition
