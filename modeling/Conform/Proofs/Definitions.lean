import Conform.Definition
import Conform.Proofs.Assoc
import Conform.Proofs.Building

/-!
What a definition is built from: the definitions inside it, and the options beside them.
-/

namespace Conform.Definition
open Outcome

/-- A definition stands directly inside another. -/
inductive Child : Json → Json → Prop where
  | property {fields properties : List (String × Json)} {name : String} {c : Json}
    (h : Assoc.lookup "properties" fields = some (.object properties))
    (hc : (name, c) ∈ properties) : Child c (.object fields)
  | element {fields : List (String × Json)} {c : Json}
    (h : Assoc.lookup "element" fields = some c) (hc : c ≠ .null) : Child c (.object fields)
  | position {fields : List (String × Json)} {key : String} {items : List Json} {c : Json}
    (hkey : key ∈ ["items", "optional_items"])
    (h : Assoc.lookup key fields = some (.array items)) (hc : c ∈ items) :
    Child c (.object fields)

theorem sizeOf_lookup_lt {key : String} {fields : List (String × Json)} {v : Json}
    (h : Assoc.lookup key fields = some v) : sizeOf v < sizeOf (Json.object fields) := by
  have hlt := List.sizeOf_lt_of_mem (Assoc.mem_of_lookup h)
  simp at hlt ⊢
  omega

theorem Child.sizeOf_lt {c d : Json} (h : Child c d) : sizeOf c < sizeOf d := by
  cases h with
  | property h hc =>
    have houter := sizeOf_lookup_lt h
    have hinner := List.sizeOf_lt_of_mem hc
    simp at houter hinner ⊢
    omega
  | element h _ => exact sizeOf_lookup_lt h
  | position _ h hc =>
    have houter := sizeOf_lookup_lt h
    have hinner := List.sizeOf_lt_of_mem hc
    simp at houter hinner ⊢
    omega

/-- What holds of a definition when it holds of those inside holds of every definition. -/
theorem induct {motive : Json → Prop} (step : ∀ d, (∀ c, Child c d → motive c) → motive d)
    (d : Json) : motive d :=
  (measure (sizeOf : Json → Nat)).wf.induction d fun d ih => step d fun c hc => ih c hc.sizeOf_lt

variable {r : Registry} {path key : String} {fields : List (String × Json)}

theorem property_eq (r : Registry) (path : String) (d : Json) :
    property r path d = assemble r path d (parts r path d) := by
  cases d <;> rfl

theorem children_eq : children r path fields =
    match Assoc.lookup "properties" fields with
    | none | some .null => .ok []
    | some (.object ps) => properties r path ps
    | some _ => fail path .propertiesNotObject := by
  induction fields using Assoc.lookup_induct "properties" with
  | nil => rfl
  | found v rest => cases v <;> simp [children, Assoc.lookup_cons_self]
  | skipped k v rest hk ih => cases v <;> simpa [children, Assoc.lookup_cons, hk] using ih

theorem element_eq : element r path fields =
    match Assoc.lookup "element" fields with
    | none | some .null => .ok none
    | some d => (property r (path ++ ".element") d).map some := by
  induction fields using Assoc.lookup_induct "element" with
  | nil => rfl
  | found v rest => cases v <;> simp [element, Assoc.lookup_cons_self]
  | skipped k v rest hk ih => cases v <;> simpa [element, Assoc.lookup_cons, hk] using ih

theorem element_of_lookup {c : Json} (h : Assoc.lookup "element" fields = some c) (hc : c ≠ .null) :
    element r path fields = (property r (path ++ ".element") c).map some := by
  rw [element_eq, h]
  cases c with
  | null => exact (hc rfl).elim
  | _ => rfl

theorem positions_eq : positions r path key fields =
    match Assoc.lookup key fields with
    | none | some .null => .ok none
    | some (.array items) => (elements r (path ++ "." ++ key) 0 items).map some
    | some _ => fail path (.itemsNotArray key) := by
  induction fields using Assoc.lookup_induct key with
  | nil => rfl
  | found v rest => cases v <;> simp [positions, Assoc.lookup_cons_self]
  | skipped k v rest hk ih => cases v <;> simpa [positions, Assoc.lookup_cons, hk] using ih

theorem properties_eq_mapM (r : Registry) (path : String) (fields : List (String × Json)) :
    properties r path fields = fields.mapM fun entry =>
      (property r (path ++ ".properties." ++ entry.1) entry.2).map fun p => (entry.1, p) := by
  induction fields with
  | nil => rfl
  | cons entry fields ih =>
    obtain ⟨name, d⟩ := entry
    rw [properties, List.mapM_cons, ih]
    cases property r (path ++ ".properties." ++ name) d <;> rfl

theorem elements_eq_mapM (r : Registry) (path : String) (index : Nat) (items : List Json) :
    elements r path index items = (items.zipIdx index).mapM fun entry =>
      property r (path ++ "[" ++ toString entry.2 ++ "]") entry.1 := by
  induction items generalizing index with
  | nil => rfl
  | cons d items ih =>
    rw [elements, List.zipIdx_cons, List.mapM_cons, ih]

/-- The schema of a hash with finished properties. -/
def hashOf (options : Options) (children : List (String × Property)) :
    Option (HashSchema Property) :=
  (HashSchema.ofOptions options).toOption.bind fun start =>
    (AttemptT.after? (children.forM fun entry => HashBuilder.insert (m := Id) entry.1 entry.2)
      start).map (·.2)

/-- The steps that describe the elements of an array by finished properties. -/
def arraySteps (element : Option Property) (items optional : Option (List Property)) :
    ArrayBuilder.Step Id := do
  element.forM ArrayBuilder.set
  items.forM fun ps => ArrayBuilder.items (ps.forM TupleBuilder.push)
  optional.forM fun ps => ArrayBuilder.optionalItems (ps.forM TupleBuilder.push)

/-- The schema of an array with finished properties. -/
def arrayOf (options : Options) (element : Option Property)
    (items optional : Option (List Property)) : Option (ArraySchema Property) :=
  (ArraySchema.ofOptions options).toOption.bind fun start =>
    ((arraySteps element items optional).after? start).map (·.2)

theorem located_toOption {α : Type} (path : String) (x : Except SchemaError α) :
    (located path x).toOption = x.toOption := toOption_mapError x _

theorem hash_toOption (n : Node) (parts : Parts) :
    (hash n parts).toOption = (n.reject ["element", "items", "optional_items"]).toOption.bind
      fun _ => parts.children.toOption.bind fun children =>
        n.options.toOption.bind fun options => hashOf options children := by
  simp only [hash, toOption_bind, located_toOption, HashSchema.defineWith_toOption]
  rfl

theorem array_toOption (n : Node) (parts : Parts) :
    (array n parts).toOption = (n.reject ["properties"]).toOption.bind fun _ =>
      parts.element.toOption.bind fun element => parts.items.toOption.bind fun items =>
        parts.optionalItems.toOption.bind fun optional =>
          n.options.toOption.bind fun options => arrayOf options element items optional := by
  simp only [array, toOption_bind, located_toOption, ArraySchema.defineWith_toOption]
  refine Option.bind_congr fun _ _ => Option.bind_congr fun element _ =>
    Option.bind_congr fun items _ => Option.bind_congr fun optional _ => ?_
  cases element <;> cases items <;> cases optional <;> rfl

theorem leaf_toOption (r : Registry) (kind : String) (n : Node) :
    (leaf r kind n).toOption =
      (n.reject ["properties", "element", "items", "optional_items"]).toOption.bind fun _ =>
        n.options.toOption.bind fun options => (r.buildProperty kind options).toOption := by
  simp only [leaf, toOption_bind, located_toOption]

variable {n : Node} {built : Parts}

theorem path_of_ofJson {d : Json} (hn : Node.ofJson path d = .ok n) : n.path = path := by
  unfold Node.ofJson at hn
  split at hn
  · cases hn
    rfl
  · split at hn <;> cases hn
    rfl
  · cases hn

theorem fields_of_ofJson (hn : Node.ofJson path (.object fields) = .ok n) : n.fields = fields := by
  unfold Node.ofJson at hn
  dsimp only at hn
  split at hn <;> cases hn
  rfl

theorem Node.reject_eq_ok_iff {keys : List String} :
    n.reject keys = .ok () ↔ ∀ key ∈ keys, Assoc.lookup key n.fields = none := by
  have hfind : keys.find? (fun key => Assoc.contains key n.fields) = none ↔
      ∀ key ∈ keys, Assoc.lookup key n.fields = none := by
    simp [Assoc.contains]
  rw [← hfind, Node.reject]
  split
  · rename_i hfound
    simp [hfound, fail]
  · rename_i hnone
    simp [hnone]

theorem hash_eq_ok {h : HashSchema Property} (hok : hash n built = .ok h) :
    ∃ children options start, n.reject ["element", "items", "optional_items"] = .ok () ∧
      built.children = .ok children ∧ n.options = .ok options ∧
      HashSchema.ofOptions options = .ok start ∧
      (AttemptT.after? (children.forM fun entry => HashBuilder.insert (m := Id) entry.1 entry.2)
        start).map (·.2) = some h := by
  have hs := toOption_eq_some_iff.mpr hok
  simp only [hash_toOption, hashOf, Option.bind_eq_some_iff, toOption_eq_some_iff] at hs
  obtain ⟨_, hreject, children, hchildren, options, hoptions, start, hstart, hsteps⟩ := hs
  exact ⟨children, options, start, hreject, hchildren, hoptions, hstart, hsteps⟩

theorem array_eq_ok {a : ArraySchema Property} (hok : array n built = .ok a) :
    ∃ element items optional options start, n.reject ["properties"] = .ok () ∧
      built.element = .ok element ∧ built.items = .ok items ∧
      built.optionalItems = .ok optional ∧ n.options = .ok options ∧
      ArraySchema.ofOptions options = .ok start ∧
      ((arraySteps element items optional).after? start).map (·.2) = some a := by
  have hs := toOption_eq_some_iff.mpr hok
  simp only [array_toOption, arrayOf, Option.bind_eq_some_iff, toOption_eq_some_iff] at hs
  obtain ⟨_, hreject, element, helement, items, hitems, optional, hoptional, options, hoptions,
    start, hstart, hsteps⟩ := hs
  exact ⟨element, items, optional, options, start, hreject, helement, hitems, hoptional, hoptions,
    hstart, hsteps⟩

theorem leaf_eq_ok {kind : String} {p : Property} (hok : leaf r kind n = .ok p) :
    ∃ options, n.reject ["properties", "element", "items", "optional_items"] = .ok () ∧
      n.options = .ok options ∧ r.buildProperty kind options = .ok p := by
  have hs := toOption_eq_some_iff.mpr hok
  simp only [leaf_toOption, Option.bind_eq_some_iff, toOption_eq_some_iff] at hs
  obtain ⟨_, hreject, options, hoptions, hp⟩ := hs
  exact ⟨options, hreject, hoptions, hp⟩

/-- A definition builds one of the containers from its parts, or has the registry make what is of
another kind. -/
inductive Builds (r : Registry) (path : String) (d : Json) : Property → Prop where
  | hash {n : Node} {h : HashSchema Property} (node : Node.ofJson path d = .ok n)
    (made : hash n (parts r path d) = .ok h) : Builds r path d (.hash h)
  | array {n : Node} {a : ArraySchema Property} (node : Node.ofJson path d = .ok n)
    (made : array n (parts r path d) = .ok a) : Builds r path d (.array a)
  | leaf {n : Node} {kind : String} {p : Property} (node : Node.ofJson path d = .ok n)
    (known : n.resolve r = .ok kind) (noHash : kind ≠ hashKind) (noArray : kind ≠ arrayKind)
    (made : leaf r kind n = .ok p) : Builds r path d p

theorem builds_of_property {d : Json} {p : Property} (h : property r path d = .ok p) :
    Builds r path d p := by
  rw [property_eq, assemble, bind_eq_ok_iff] at h
  obtain ⟨n, hn, h⟩ := h
  obtain ⟨kind, hkind, h⟩ := bind_eq_ok_iff.mp h
  split at h
  · obtain ⟨schema, hok, heq⟩ := bind_eq_ok_iff.mp h
    cases heq
    exact .hash hn hok
  · split at h
    · obtain ⟨schema, hok, heq⟩ := bind_eq_ok_iff.mp h
      cases heq
      exact .array hn hok
    · rename_i noHash noArray
      exact .leaf hn hkind noHash noArray h

end Conform.Definition
