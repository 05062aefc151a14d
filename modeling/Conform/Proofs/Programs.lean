import Conform.Proofs.Definitions

/-!
The builder programs that definitions stand for: every definition inside another one becomes a call
in its block, in the order in which they are written.
-/

namespace Conform

/-- One call of a builder: its options as an object, and for a container the block it runs. -/
inductive Call where
  | leaf (kind : String) (options : Json)
  | hash (options : Json) (block : HashBuilder.Step Id)
  | array (options : Json) (block : ArrayBuilder.Step Id)

namespace Call
variable (r : Registry)

def onHash (name : String) : Call → HashBuilder.Step Id
  | leaf kind options => do
    HashBuilder.addProperty r kind name (← AttemptT.ofExcept (Options.ofJson options))
  | hash options block => do
    HashBuilder.nestedHash name (← AttemptT.ofExcept (Options.ofJson options)) block
  | array options block => do
    HashBuilder.array name (← AttemptT.ofExcept (Options.ofJson options)) block

def onArray : Call → ArrayBuilder.Step Id
  | leaf kind options => do
    ArrayBuilder.addProperty r kind (← AttemptT.ofExcept (Options.ofJson options))
  | hash options block => do
    ArrayBuilder.nestedHash (← AttemptT.ofExcept (Options.ofJson options)) block
  | array options block => do
    ArrayBuilder.array (← AttemptT.ofExcept (Options.ofJson options)) block

def onTuple : Call → TupleBuilder.Step Id
  | leaf kind options => do
    TupleBuilder.addProperty r kind (← AttemptT.ofExcept (Options.ofJson options))
  | hash options block => do
    TupleBuilder.nestedHash (← AttemptT.ofExcept (Options.ofJson options)) block
  | array options block => do
    TupleBuilder.array (← AttemptT.ofExcept (Options.ofJson options)) block

/-- The call for a node of a kind, by its keys and the blocks that its structural keys give. -/
def ofNode (kind : String) (fields : List (String × Json)) (properties : HashBuilder.Step Id)
    (elements : ArrayBuilder.Step Id) : Call :=
  let options :=
    Json.object (fields.filter fun field => !Definition.structuralKeys.contains field.1)
  match r.resolve kind with
  | .ok resolved =>
    if resolved = hashKind then hash options properties
    else if resolved = arrayKind then array options elements
    else leaf kind options
  | .error _ => leaf kind options

/-- The schema of a program that consists of a call. No builder makes a schema of a leaf. -/
def schema : Call → Except SchemaError Schema
  | leaf kind _ => Definition.fail Definition.root (.notContainer kind)
  | hash options block => do
    (Id.run (HashSchema.defineWith (← Options.ofJson options) block)).map .hash
  | array options block => do
    (Id.run (ArraySchema.defineWith (← Options.ofJson options) block)).map .array

end Call

namespace Definition
variable (r : Registry)

/-- The kind that a node names, if it names one. -/
def kindOf (fields : List (String × Json)) : String :=
  match Assoc.lookup "type" fields with
  | some (.string kind) => kind
  | _ => ""

mutual

/-- The call that a definition stands for. -/
def call : Json → Call
  | .object fields =>
    Call.ofNode r (kindOf fields) fields (propertiesBlock fields) do
      elementBlock fields
      (tupleBlock "items" fields).forM ArrayBuilder.items
      (tupleBlock "optional_items" fields).forM ArrayBuilder.optionalItems
  | .string kind => Call.ofNode r kind [] (pure ()) (pure ())
  | _ => Call.ofNode r "" [] (pure ()) (pure ())

def propertiesBlock : List (String × Json) → HashBuilder.Step Id
  | [] => pure ()
  | (key, value) :: rest =>
    if key = "properties" then
      match value with
      | .object properties => addProperties properties
      | _ => pure ()
    else propertiesBlock rest

def addProperties : List (String × Json) → HashBuilder.Step Id
  | [] => pure ()
  | (name, definition) :: rest => do
    (call definition).onHash r name
    addProperties rest

def elementBlock : List (String × Json) → ArrayBuilder.Step Id
  | [] => pure ()
  | (key, value) :: rest =>
    if key = "element" then
      match value with
      | .null => pure ()
      | definition => (call definition).onArray r
    else elementBlock rest

def tupleBlock (key : String) : List (String × Json) → Option (TupleBuilder.Step Id)
  | [] => none
  | (k, value) :: rest =>
    if k = key then
      match value with
      | .array definitions => some (addPositions definitions)
      | _ => none
    else tupleBlock key rest

def addPositions : List Json → TupleBuilder.Step Id
  | [] => pure ()
  | definition :: rest => do
    (call definition).onTuple r
    addPositions rest

end

/-- The program for a whole definition. -/
def program (definition : Json) : Except SchemaError Schema := (call r definition).schema

variable {r} {key kind : String} {fields : List (String × Json)}

theorem kindOf_eq {written : String} (htype : Assoc.lookup "type" fields = some (.string written)) :
    kindOf fields = written := by
  simp [kindOf, htype]

theorem propertiesBlock_eq : propertiesBlock r fields =
    match Assoc.lookup "properties" fields with
    | some (.object ps) => addProperties r ps
    | _ => pure () := by
  induction fields using Assoc.lookup_induct "properties" with
  | nil => rfl
  | found v rest => cases v <;> simp [propertiesBlock, Assoc.lookup_cons_self]
  | skipped k v rest hk ih => cases v <;> simpa [propertiesBlock, Assoc.lookup_cons, hk] using ih

theorem elementBlock_eq : elementBlock r fields =
    match Assoc.lookup "element" fields with
    | none | some .null => pure ()
    | some d => (call r d).onArray r := by
  induction fields using Assoc.lookup_induct "element" with
  | nil => rfl
  | found v rest => cases v <;> simp [elementBlock, Assoc.lookup_cons_self]
  | skipped k v rest hk ih => cases v <;> simpa [elementBlock, Assoc.lookup_cons, hk] using ih

theorem tupleBlock_eq : tupleBlock r key fields =
    match Assoc.lookup key fields with
    | some (.array ds) => some (addPositions r ds)
    | _ => none := by
  induction fields using Assoc.lookup_induct key with
  | nil => rfl
  | found v rest => cases v <;> simp [tupleBlock, Assoc.lookup_cons_self]
  | skipped k v rest hk ih => cases v <;> simpa [tupleBlock, Assoc.lookup_cons, hk] using ih

/-- The structural keys of a node stand only where they mean something, and hold what fits there. -/
structure Shaped (kind : String) (fields : List (String × Json)) : Prop where
  properties : ∀ v, Assoc.lookup "properties" fields = some v →
    kind = hashKind ∧ (v = .null ∨ ∃ ps, v = .object ps)
  element : ∀ v, Assoc.lookup "element" fields = some v → kind = arrayKind
  positions : ∀ key ∈ ["items", "optional_items"], ∀ v, Assoc.lookup key fields = some v →
    kind = arrayKind ∧ (v = .null ∨ ∃ items, v = .array items)

/-- Every node names a kind, and its structural keys fit the kind. -/
inductive WellShaped (r : Registry) : Json → Prop where
  | name {kind resolved : String} (hkind : r.resolve kind = .ok resolved) :
    WellShaped r (.string kind)
  | node {fields : List (String × Json)} {kind resolved : String}
    (htype : Assoc.lookup "type" fields = some (.string kind))
    (hkind : r.resolve kind = .ok resolved) (shaped : Shaped resolved fields)
    (inside : ∀ c, Child c (.object fields) → WellShaped r c) : WellShaped r (.object fields)

theorem Node.reject_eq_ok {n : Node} {keys : List String}
    (h : ∀ key ∈ keys, ∀ v, Assoc.lookup key n.fields ≠ some v) : n.reject keys = .ok () := by
  rw [reject_eq_ok_iff]
  intro key hkey
  exact Option.eq_none_iff_forall_ne_some.mpr (h key hkey)

namespace Shaped
variable {n : Node}

theorem nil : Shaped kind [] := by
  refine ⟨?_, ?_, ?_⟩
  · intro v h
    cases h
  · intro v h
    cases h
  · intro key _ v h
    cases h

theorem no_elements (h : Shaped kind fields) (hk : kind ≠ arrayKind) :
    ∀ key ∈ ["element", "items", "optional_items"], ∀ v, Assoc.lookup key fields ≠ some v := by
  intro key hkey v hl
  rcases List.mem_cons.mp hkey with rfl | hkey
  · exact hk (h.element v hl)
  · exact hk (h.positions key hkey v hl).1

theorem no_properties (h : Shaped kind fields) (hk : kind ≠ hashKind) :
    ∀ v, Assoc.lookup "properties" fields ≠ some v := by
  intro v hl
  exact hk (h.properties v hl).1

theorem accepts_hash (shaped : Shaped kind n.fields) (h : kind = hashKind) :
    n.reject ["element", "items", "optional_items"] = .ok () := by
  have hdiff : kind ≠ arrayKind := by simp [h, hashKind, arrayKind]
  exact Node.reject_eq_ok (shaped.no_elements hdiff)

theorem accepts_array (shaped : Shaped kind n.fields) (h : kind ≠ hashKind) :
    n.reject ["properties"] = .ok () :=
  Node.reject_eq_ok (by simpa using shaped.no_properties h)

theorem accepts_leaf (shaped : Shaped kind n.fields) (hh : kind ≠ hashKind)
    (ha : kind ≠ arrayKind) :
    n.reject ["properties", "element", "items", "optional_items"] = .ok () := by
  refine Node.reject_eq_ok ?_
  intro key hkey
  rcases List.mem_cons.mp hkey with rfl | hkey
  · exact shaped.no_properties hh
  · exact shaped.no_elements ha key hkey

end Shaped

end Definition

end Conform
