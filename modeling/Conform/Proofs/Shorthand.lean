import Conform.Proofs.Positions

/-!
Kinds named by themselves. A bare name stands for an object that names the kind and gives nothing
else, and which of the two is written makes no difference, wherever in a definition it stands.
-/

namespace Conform.Definition
open Outcome

/-- An object that names a kind and gives nothing else. -/
def spelledOut (kind : String) : Json := .object [("type", .string kind)]

mutual

/-- The definition with the bare names at chosen positions spelled out. -/
def expand (chosen : Position → Bool) : Json → Json
  | .string kind => if chosen [] then spelledOut kind else .string kind
  | .object fields => .object (expandFields chosen fields)
  | d => d

def expandFields (chosen : Position → Bool) : List (String × Json) → List (String × Json)
  | [] => []
  | (key, v) :: rest =>
    let expanded :=
      if key = "element" then expand (fun more => chosen (.element :: more)) v
      else expandMembers chosen key v
    (key, expanded) :: expandFields chosen rest

/-- Other keys than `element` lead to definitions only in an object of properties or in an array of
positions. -/
def expandMembers (chosen : Position → Bool) (key : String) : Json → Json
  | .object entries =>
    if key = "properties" then .object (expandEntries chosen entries) else .object entries
  | .array items =>
    if key = itemsKey false then .array (expandItems chosen false 0 items)
    else if key = itemsKey true then .array (expandItems chosen true 0 items)
    else .array items
  | v => v

def expandEntries (chosen : Position → Bool) : List (String × Json) → List (String × Json)
  | [] => []
  | (name, d) :: rest =>
    (name, expand (fun more => chosen (.property name :: more)) d) :: expandEntries chosen rest

def expandItems (chosen : Position → Bool) (optional : Bool) (index : Nat) :
    List Json → List Json
  | [] => []
  | d :: rest =>
    expand (fun more => chosen (.item optional index :: more)) d ::
      expandItems chosen optional (index + 1) rest

end

/-- What becomes of the value under a key. -/
def expandValue (chosen : Position → Bool) (key : String) (v : Json) : Json :=
  if key = "element" then expand (fun more => chosen (.element :: more)) v
  else expandMembers chosen key v

variable {r : Registry} {path key : String} {d c : Json} {chosen : Position → Bool}
  {fields entries : List (String × Json)} {items : List Json} {optional : Bool}

theorem expandFields_eq_map (chosen : Position → Bool) (fields : List (String × Json)) :
    expandFields chosen fields =
      fields.map fun field => (field.1, expandValue chosen field.1 field.2) := by
  induction fields with
  | nil => rfl
  | cons field rest ih =>
    rw [expandFields, ih]
    rfl

theorem expandEntries_eq_map (chosen : Position → Bool) (entries : List (String × Json)) :
    expandEntries chosen entries = entries.map fun entry =>
      (entry.1, expand (fun more => chosen (.property entry.1 :: more)) entry.2) := by
  induction entries with
  | nil => rfl
  | cons entry rest ih =>
    rw [expandEntries, ih]
    rfl

theorem getElem?_expandItems (start i : Nat) :
    (expandItems chosen optional start items)[i]? =
      items[i]?.map (expand fun more => chosen (.item optional (start + i) :: more)) := by
  induction items generalizing start i with
  | nil => rfl
  | cons d rest ih =>
    rw [expandItems]
    cases i with
    | zero => rfl
    | succ i =>
      rw [List.getElem?_cons_succ, List.getElem?_cons_succ, ih, Nat.add_right_comm]
      rfl

theorem lookup_expandFields (key : String) :
    Assoc.lookup key (expandFields chosen fields) =
      (Assoc.lookup key fields).map (expandValue chosen key) := by
  rw [expandFields_eq_map, Assoc.lookup_map]

theorem expandValue_properties :
    expandValue chosen "properties" (.object entries) = .object (expandEntries chosen entries) :=
  rfl

theorem expandValue_items :
    expandValue chosen (itemsKey optional) (.array items) =
      .array (expandItems chosen optional 0 items) := by
  cases optional <;> rfl

/-- Options are left as they are. -/
theorem expandValue_of_not_structural {v : Json} (h : key ∉ structuralKeys) :
    expandValue chosen key v = v := by
  simp only [structuralKeys, List.mem_cons, List.not_mem_nil, or_false, not_or] at h
  obtain ⟨-, hproperties, helement, hitems, hoptional⟩ := h
  rw [expandValue, if_neg helement]
  cases v with
  | object entries => exact if_neg hproperties
  | array items => exact (if_neg hitems).trans (if_neg hoptional)
  | _ => rfl

theorem expand_eq_null_iff : expand chosen d = .null ↔ d = .null := by
  cases d with
  | string kind =>
    rw [expand]
    split <;> simp [spelledOut]
  | _ => simp [expand]

theorem Leads.expand {step : Step} (leads : Leads step d c) :
    Leads step (expand chosen d) (expand (fun more => chosen (step :: more)) c) := by
  cases leads with
  | @property fields entries name c h hc =>
    have there : Assoc.lookup "properties" (expandFields chosen fields) =
        some (.object (expandEntries chosen entries)) := by
      rw [lookup_expandFields, h, Option.map_some, expandValue_properties]
    refine .property there ?_
    rw [expandEntries_eq_map]
    exact List.mem_map.mpr ⟨(name, c), hc, rfl⟩
  | element h hc =>
    refine .element ?_ (mt expand_eq_null_iff.mp hc)
    rw [lookup_expandFields, h]
    rfl
  | @item fields optional items index c h hc =>
    have there : Assoc.lookup (itemsKey optional) (expandFields chosen fields) =
        some (.array (expandItems chosen optional 0 items)) := by
      rw [lookup_expandFields, h, Option.map_some, expandValue_items]
    refine .item there ?_
    rw [getElem?_expandItems, hc, Nat.zero_add, Option.map_some]

/-- At every position stands what stood there, with the bare names chosen from there on spelled
out. -/
theorem Found.expand {position : Position} (found : Found position d c)
    (chosen : Position → Bool) :
    Found position (expand chosen d) (expand (fun more => chosen (position ++ more)) c) := by
  induction found generalizing chosen with
  | here => exact .here
  | inside first _ ih => exact .inside first.expand (ih _)

/-- Nodes that differ at most in the definitions inside. -/
structure Node.Resembles (n k : Node) : Prop where
  path : n.path = k.path
  kind : n.kind = k.kind
  options : n.optionFields = k.optionFields
  given : ∀ key ∈ structuralKeys.tail, Assoc.contains key n.fields = Assoc.contains key k.fields

namespace Node.Resembles
variable {n k : Node} {built : Parts}

theorem resolve_eq (h : n.Resembles k) (r : Registry) : n.resolve r = k.resolve r := by
  rw [Node.resolve, Node.resolve, h.path, h.kind]

theorem options_eq (h : n.Resembles k) : n.options = k.options := by
  rw [Node.options, Node.options, h.path, h.options]

theorem reject_eq (h : n.Resembles k) {keys : List String} (hkeys : keys ⊆ structuralKeys.tail) :
    n.reject keys = k.reject keys := by
  have found : keys.find? (fun key => Assoc.contains key n.fields) =
      keys.find? fun key => Assoc.contains key k.fields := by
    induction keys with
    | nil => rfl
    | cons key rest ih =>
      obtain ⟨hkey, hrest⟩ := List.cons_subset.mp hkeys
      rw [List.find?_cons, List.find?_cons, h.given key hkey, ih hrest]
  rw [Node.reject, Node.reject, found, h.path, h.kind]

theorem hash_eq (h : n.Resembles k) : hash n built = hash k built := by
  rw [hash, hash, h.reject_eq (by decide), h.options_eq, h.path]

theorem array_eq (h : n.Resembles k) : array n built = array k built := by
  rw [array, array, h.reject_eq (by decide), h.options_eq, h.path]

theorem leaf_eq (h : n.Resembles k) (kind : String) : leaf r kind n = leaf r kind k := by
  rw [leaf, leaf, h.reject_eq (by decide), h.options_eq, h.path]

end Node.Resembles

/-- A bare name is a node without keys; spelled out it has the one key that is neither an option nor
leads to definitions inside. -/
theorem resembles_spelledOut (path kind : String) :
    Node.Resembles ⟨path, kind, [("type", .string kind)]⟩ ⟨path, kind, []⟩ :=
  ⟨rfl, rfl, rfl, by simp [structuralKeys, Assoc.contains, Assoc.lookup]⟩

theorem resembles_expandFields (path kind : String) (fields : List (String × Json)) :
    Node.Resembles ⟨path, kind, expandFields chosen fields⟩ ⟨path, kind, fields⟩ := by
  refine ⟨rfl, rfl, ?_, ?_⟩
  · rw [Node.optionFields, Node.optionFields, expandFields_eq_map]
    induction fields with
    | nil => rfl
    | cons field rest ih =>
      obtain ⟨key, v⟩ := field
      rw [List.map_cons, List.filter_cons, List.filter_cons, ih]
      by_cases hkey : key ∈ structuralKeys
      · simp [hkey]
      · rw [expandValue_of_not_structural hkey]
  · intro key _
    rw [Assoc.contains, lookup_expandFields, Option.isSome_map, Assoc.contains]

theorem ofJson_expand (path : String) (chosen : Position → Bool) (d : Json) :
    Alike Node.Resembles (Node.ofJson path (expand chosen d)) (Node.ofJson path d) := by
  cases d with
  | string kind =>
    rw [expand]
    split
    · exact .ok (resembles_spelledOut path kind)
    · exact .ok ⟨rfl, rfl, rfl, fun _ _ => rfl⟩
  | object fields =>
    have named : Assoc.lookup "type" (expandFields chosen fields) = Assoc.lookup "type" fields := by
      rw [lookup_expandFields]
      cases Assoc.lookup "type" fields with
      | none => rfl
      | some v => cases v <;> rfl
    rw [expand, Node.ofJson, Node.ofJson, named]
    split
    · exact .ok (resembles_expandFields path _ fields)
    · exact .error
    · exact .error
  | _ => exact .error

theorem properties_expand
    (inside : ∀ name c, (name, c) ∈ entries → ∀ path chosen,
      property r path (expand chosen c) = property r path c) :
    properties r path (expandEntries chosen entries) = properties r path entries := by
  induction entries with
  | nil => rfl
  | cons entry rest ih =>
    obtain ⟨name, c⟩ := entry
    rw [expandEntries, properties, properties, inside name c (by simp),
      ih fun other b hb => inside other b (List.mem_cons_of_mem _ hb)]

theorem elements_expand {start : Nat}
    (inside : ∀ c ∈ items, ∀ path chosen, property r path (expand chosen c) = property r path c) :
    elements r path start (expandItems chosen optional start items) =
      elements r path start items := by
  induction items generalizing start with
  | nil => rfl
  | cons c rest ih =>
    rw [expandItems, elements, elements, inside c (by simp),
      ih fun b hb => inside b (List.mem_cons_of_mem _ hb)]

section Parts
variable (inside : ∀ c, Child c (.object fields) → ∀ path chosen,
  property r path (expand chosen c) = property r path c)
include inside

theorem children_expand :
    children r path (expandFields chosen fields) = children r path fields := by
  rw [children_eq, children_eq, lookup_expandFields]
  cases hl : Assoc.lookup "properties" fields with
  | none => rfl
  | some v =>
    cases v with
    | object entries =>
      rw [Option.map_some, expandValue_properties]
      exact properties_expand fun name c hc => inside c (.property hl hc)
    | _ => rfl

theorem element_expand : element r path (expandFields chosen fields) = element r path fields := by
  have expanded : Assoc.lookup "element" (expandFields chosen fields) =
      (Assoc.lookup "element" fields).map (expand fun more => chosen (.element :: more)) :=
    lookup_expandFields "element"
  cases hl : Assoc.lookup "element" fields with
  | none => rw [element_eq, element_eq, expanded, hl, Option.map_none]
  | some c =>
    rw [hl, Option.map_some] at expanded
    by_cases hc : c = .null
    · subst hc
      rw [element_eq, element_eq, expanded, hl]
      rfl
    · rw [element_of_lookup hl hc, element_of_lookup expanded (mt expand_eq_null_iff.mp hc),
        inside c (.element hl hc)]

theorem positions_expand (optional : Bool) :
    positions r path (itemsKey optional) (expandFields chosen fields) =
      positions r path (itemsKey optional) fields := by
  rw [positions_eq, positions_eq, lookup_expandFields]
  cases hl : Assoc.lookup (itemsKey optional) fields with
  | none => rfl
  | some v =>
    cases v with
    | array items =>
      have same : elements r (path ++ "." ++ itemsKey optional) 0
          (expandItems chosen optional 0 items) =
            elements r (path ++ "." ++ itemsKey optional) 0 items :=
        elements_expand fun c hc => inside c (.position (itemsKey_mem optional) hl hc)
      rw [Option.map_some, expandValue_items]
      exact congrArg (Except.map some) same
    | _ => cases optional <;> rfl

end Parts

/-- Nothing stands inside a bare name, however it is written. -/
theorem parts_expand (inside : ∀ c, Child c d → ∀ path chosen,
      property r path (expand chosen c) = property r path c) :
    parts r path (expand chosen d) = parts r path d := by
  cases d with
  | string kind =>
    rw [expand]
    split <;> rfl
  | object fields =>
    rw [expand, parts, parts, children_expand inside, element_expand inside]
    exact congrArg₂ (Parts.mk _ _) (positions_expand inside false) (positions_expand inside true)
  | _ => rfl

theorem assemble_expand (built : Parts) :
    assemble r path (expand chosen d) built = assemble r path d built := by
  have same := ofJson_expand path chosen d
  unfold assemble
  generalize Node.ofJson path (expand chosen d) = x at same ⊢
  generalize Node.ofJson path d = y at same ⊢
  cases same with
  | ok h => simp only [ok_bind, h.resolve_eq, h.hash_eq, h.array_eq, h.leaf_eq]
  | error => rfl

/-- Induction on the definition: the parts are built from either form alike. -/
theorem property_expand (r : Registry) (d : Json) (path : String) (chosen : Position → Bool) :
    property r path (expand chosen d) = property r path d := by
  induction d using induct generalizing path chosen with
  | step d ih => rw [property_eq, property_eq, parts_expand ih, assemble_expand]

theorem schema_expand (r : Registry) (chosen : Position → Bool) (d : Json) :
    schema r (expand chosen d) = schema r d := by
  have same := ofJson_expand root chosen d
  rw [schema, schema, parts_expand fun c _ => property_expand r c]
  generalize Node.ofJson root (expand chosen d) = x at same ⊢
  generalize Node.ofJson root d = y at same ⊢
  cases same with
  | ok h => simp only [ok_bind, h.resolve_eq, h.hash_eq, h.array_eq]
  | error => rfl

/-- Whether a kind is named by itself or in an object makes no difference: with any of the bare
names in a definition spelled out, at whatever positions, the same comes of it, a schema or a
fault. -/
theorem bare_names_are_shorthand (r : Registry) (chosen : Position → Bool) (d : Json) :
    (∀ position kind, Found position d (.string kind) → Found position (expand chosen d)
      (if chosen position then spelledOut kind else .string kind)) ∧
    (∀ path, property r path (expand chosen d) = property r path d) ∧
    schema r (expand chosen d) = schema r d := by
  refine ⟨?_, fun path => property_expand r d path chosen, schema_expand r chosen d⟩
  intro position kind found
  have there := found.expand chosen
  rwa [expand, List.append_nil] at there

/-- The names of a record, where the kind of what a pair may hold in second place is left open. -/
def pairOf (kind : String) : Json := .object [("type", .string "hash"), ("properties", .object [
  ("name", .string "string"),
  ("pair", .object [("type", .string "array"), ("optional_items", .array [.string "nil"]),
    ("items", .array [.string "integer", .object [("type", .string "array"),
      ("element", .string kind)]])])])]

def pairOfExpanded (kind : String) : Json := .object [("type", .string "hash"), ("properties",
  .object [("name", spelledOut "string"),
    ("pair", .object [("type", .string "array"), ("optional_items", .array [spelledOut "nil"]),
      ("items", .array [.string "integer", .object [("type", .string "array"),
        ("element", spelledOut kind)]])])])]

/-- Three of four bare names are spelled out, at three depths. The record is built as before, and if
the deepest name is misspelled, it is refused as before. -/
theorem names_of_pair_spelled_out :
    let deep : Position := [.property "pair", .item false 1, .element]
    let chosen : Position → Bool := fun position =>
      position ∈ [[.property "name"], [.property "pair", .item true 0], deep]
    let leaf (kind : String) (test : TypeTest) (allowNil : Bool) : Property :=
      .leaf ⟨kind, test, true, allowNil, []⟩
    let floats : Property := .array
      ⟨.single (leaf "float" .float false), false, none, none, true, false⟩
    let pair : Property := .array ⟨.tuple [leaf "integer" .integer false, floats]
      [leaf "nil" .null true], false, none, none, true, false⟩
    let record : Schema := .hash
      ⟨[("name", leaf "string" .string false), ("pair", pair)], true, true, false⟩
    (∀ kind, expand chosen (pairOf kind) = pairOfExpanded kind) ∧
      Found deep (pairOf "float") (.string "float") ∧
      Found deep (pairOfExpanded "float") (spelledOut "float") ∧
      schema .builtin (pairOf "float") = .ok record ∧
      schema .builtin (pairOfExpanded "float") = .ok record ∧
      schema .builtin (pairOfExpanded "flaot") = .error (.invalidDefinition
        "$.properties.pair.items[1].element" (.construction (.unknownKind "flaot"))) := by
  intro deep chosen leaf floats pair record
  have expanded : ∀ kind, expand chosen (pairOf kind) = pairOfExpanded kind := fun _ => rfl
  have found : Found deep (pairOf "float") (.string "float") :=
    .inside (.property rfl (.tail _ (.head _))) (.inside (.item rfl rfl)
      (.inside (.element rfl (by simp)) .here))
  obtain ⟨spelled, -, builds⟩ := bare_names_are_shorthand .builtin chosen (pairOf "float")
  obtain ⟨-, -, fails⟩ := bare_names_are_shorthand .builtin chosen (pairOf "flaot")
  rw [expanded] at spelled builds fails
  have built : schema .builtin (pairOf "float") = .ok record := rfl
  have refused : schema .builtin (pairOf "flaot") = .error (.invalidDefinition
      "$.properties.pair.items[1].element" (.construction (.unknownKind "flaot"))) := rfl
  exact ⟨expanded, found, spelled deep "float" found, built, builds.trans built,
    fails.trans refused⟩

end Conform.Definition
