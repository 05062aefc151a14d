import Conform.Proofs.Definitions
import Conform.Proofs.Registrations

/-!
Kinds in definitions. A definition without structural keys gives a name and options, as a call of
the registry does, but definitions make the two containers by themselves, and they look any other
kind up once more, under the name that was found for it.
-/

namespace Conform.Definition
open Outcome
open Text (normalizeKey)

/-- The definition of a kind with options before and after its name. -/
def ofKind (before : List (String × Json)) (name : String) (after : List (String × Json)) : Json :=
  .object (before ++ ("type", .string name) :: after)

/-- No key is structural. -/
def Plain (fields : List (String × Json)) : Prop := ∀ field ∈ fields, field.1 ∉ structuralKeys

variable {r : Registry} {path name kind key : String} {before after : List (String × Json)}

theorem not_mem_of_plain (plain : Plain before) (hkey : key ∈ structuralKeys) :
    key ∉ before.map (·.1) := by
  intro hmem
  obtain ⟨field, hfield, rfl⟩ := List.mem_map.mp hmem
  exact plain field hfield hkey

theorem lookup_ofKind (plain : Plain (before ++ after)) (key : String)
    (hkey : key ∈ structuralKeys.tail) :
    Assoc.lookup key (before ++ ("type", Json.string name) :: after) = none := by
  have absent := not_mem_of_plain plain (List.mem_of_mem_tail hkey)
  have hne : key ≠ "type" := by
    rintro rfl
    revert hkey
    decide
  rw [List.map_append, List.mem_append, not_or] at absent
  rw [Assoc.lookup_eq_none_iff, List.map_append, List.map_cons, List.mem_append, List.mem_cons]
  rintro (hbefore | rfl | hafter)
  · exact absent.1 hbefore
  · exact hne rfl
  · exact absent.2 hafter

theorem lookup_type (plain : Plain (before ++ after)) :
    Assoc.lookup "type" (before ++ ("type", Json.string name) :: after) = some (.string name) := by
  have absent : "type" ∉ before.map (·.1) :=
    not_mem_of_plain (fun field h => plain field (List.mem_append_left _ h)) (by decide)
  rw [Assoc.lookup_append_of_not_mem absent, Assoc.lookup_cons_self]

theorem ofJson_ofKind (plain : Plain (before ++ after)) :
    Node.ofJson path (ofKind before name after) =
      .ok ⟨path, name, before ++ ("type", .string name) :: after⟩ := by
  simp [Node.ofJson, ofKind, lookup_type plain]

theorem parts_ofKind (plain : Plain (before ++ after)) :
    parts r path (ofKind before name after) = .none := by
  simp only [parts, ofKind, children_eq, element_eq, positions_eq, Parts.none,
    lookup_ofKind plain "properties" (by decide),
    lookup_ofKind plain "element" (by decide),
    lookup_ofKind plain "items" (by decide),
    lookup_ofKind plain "optional_items" (by decide)]

theorem reject_ofKind (plain : Plain (before ++ after)) {keys : List String}
    (hkeys : ∀ key ∈ keys, key ∈ structuralKeys.tail) :
    Node.reject keys ⟨path, name, before ++ ("type", .string name) :: after⟩ = .ok () := by
  rw [Node.reject_eq_ok_iff]
  intro key hkey
  exact lookup_ofKind plain key (hkeys key hkey)

theorem options_ofKind (path name : String) (plain : Plain (before ++ after)) :
    Node.options ⟨path, name, before ++ ("type", .string name) :: after⟩ =
      located path (Options.ofJson (.object (before ++ after))) := by
  have kept : ∀ fields, fields ⊆ before ++ after →
      fields.filter (fun field => !structuralKeys.contains field.1) = fields := by
    intro fields hsub
    rw [List.filter_eq_self]
    intro field hfield
    simpa using plain field (hsub hfield)
  rw [Node.options, Node.optionFields, List.filter_append, kept before (by simp),
    List.filter_cons_of_neg (by simp [structuralKeys]), kept after (by simp)]
  rfl

theorem located_bind {α β : Type} (x : Except SchemaError α) (f : α → Except SchemaError β) :
    (do located path (f (← located path x))) = located path (x >>= f) := by
  cases x <;> rfl

/-- Builds by a kind as definitions do: the containers on their own, and any other kind by the name
that was found for it. -/
def buildKind (r : Registry) (kind : String) (options : Options) : Except SchemaError Property :=
  if kind = hashKind then Registry.hashFactory options r.directory
  else if kind = arrayKind then Registry.arrayFactory options r.directory
  else r.buildProperty kind options

theorem hash_none {n : Node} (hn : n.reject ["element", "items", "optional_items"] = .ok ())
    {given : Except SchemaError Options} (ho : n.options = located n.path given) :
    (do return Property.hash (← hash n .none)) =
      located n.path (do Registry.hashFactory (← given) r.directory) := by
  rw [hash, hn, ho]
  cases given with
  | error e => rfl
  | ok options =>
    simp only [Parts.none, ok_bind, located, ok_mapError, HashSchema.defineWith,
      Registry.hashFactory]
    cases HashSchema.ofOptions (P := Property) options <;> rfl

theorem array_none {n : Node} (hn : n.reject ["properties"] = .ok ())
    {given : Except SchemaError Options} (ho : n.options = located n.path given) :
    (do return Property.array (← array n .none)) =
      located n.path (do Registry.arrayFactory (← given) r.directory) := by
  rw [array, hn, ho]
  cases given with
  | error e => rfl
  | ok options =>
    simp only [Parts.none, ok_bind, located, ok_mapError, ArraySchema.defineWith,
      Registry.arrayFactory]
    cases ArraySchema.ofOptions (P := Property) options <;> rfl

theorem property_ofKind (path : String) (plain : Plain (before ++ after))
    (known : r.resolve name = .ok kind) :
    property r path (ofKind before name after) =
      located path (do buildKind r kind (← Options.ofJson (.object (before ++ after)))) := by
  have resolved : Node.resolve r ⟨path, name, before ++ ("type", .string name) :: after⟩ =
      .ok kind := by
    rw [Node.resolve, known]
    rfl
  have options := options_ofKind path name plain
  rw [property_eq, parts_ofKind plain, assemble, ofJson_ofKind plain, ok_bind, resolved, ok_bind]
  unfold buildKind
  split
  · exact hash_none (reject_ofKind plain (by decide)) options
  · split
    · exact array_none (reject_ofKind plain (by decide)) options
    · rw [leaf, reject_ofKind plain (by decide), ok_bind, options]
      exact located_bind _ _

theorem build_eq_buildProperty (closed : r.Closed) (known : r.resolve name = .ok kind)
    (settled : normalizeKey kind = kind)
    (hash : kind = hashKind → Assoc.lookup kind r.kinds = some Registry.hashFactory)
    (array : kind = arrayKind → Assoc.lookup kind r.kinds = some Registry.arrayFactory)
    (options : Options) : buildKind r kind options = r.buildProperty name options := by
  have again : r.resolve kind = .ok kind := by
    rw [Registry.resolve_eq_ok_iff, settled]
    exact if_pos (closed.contains_of_target? (Registry.resolve_eq_ok_iff.mp known))
  have same : r.factory? name = r.factory? kind := by
    rw [Registry.factory?, Registry.factory?, known, again]
  have found : r.factory? kind = Assoc.lookup kind r.kinds := by
    rw [Registry.factory?, again]
    rfl
  unfold buildKind
  split
  · rename_i hkind
    rw [Registry.buildProperty_eq, same, found, hash hkind]
  · split
    · rename_i hkind
      rw [Registry.buildProperty_eq, same, found, array hkind]
    · obtain ⟨factory, hf⟩ := closed.exists_factory again
      rw [Registry.buildProperty_eq, Registry.buildProperty_eq, same, found, hf]

/-- A name goes on to stand for a kind that is registered anew. -/
theorem resolve_registerKind (known : r.resolve name = .ok kind)
    (settled : normalizeKey kind = kind) (factory : PropertyFactory) :
    (r.registerKind kind factory).resolve name = .ok kind := by
  rw [Registry.resolve_eq_ok_iff] at known ⊢
  by_cases heq : normalizeKey name = kind
  · rw [heq, Registry.target?, Registry.registerKind, settled, if_pos Assoc.contains_store_self]
  · refine ((Registry.effect r (.kind kind factory)).target?_eq ?_).trans known
    rintro (stores | stores)
    · exact heq (stores.symm.trans settled)
    · exact stores

theorem buildProperty_registerKind (known : r.resolve name = .ok kind)
    (settled : normalizeKey kind = kind) (factory : PropertyFactory) (options : Options) :
    (r.registerKind kind factory).buildProperty name options =
      factory options (r.registerKind kind factory).directory := by
  have found : (r.registerKind kind factory).factory? name = some factory := by
    rw [Registry.factory?, resolve_registerKind known settled factory, Registry.registerKind,
      settled]
    exact Assoc.lookup_store
  rw [Registry.buildProperty_eq, found]

theorem settled_of_container (container : kind = hashKind ∨ kind = arrayKind) :
    normalizeKey kind = kind := by
  rcases container with rfl | rfl <;> rfl

/-- Whatever a container is registered anew as, definitions build it as before. -/
theorem build_registerKind (container : kind = hashKind ∨ kind = arrayKind)
    (factory : PropertyFactory) (options : Options) :
    buildKind (r.registerKind kind factory) kind options = buildKind r kind options := by
  rcases container with rfl | rfl <;> rfl

/-- A definition builds what the registry builds by the same name and options, with a fault at its
own place, as long as the kind is found again under its own name and the kind of a container is not
registered anew. When it is, the registry builds what is new and definitions build what they did. -/
theorem definitions_build_by_kind {steps : List Registration} (path : String)
    (plain : Plain (before ++ after))
    (known : (Registry.builtin.after steps).resolve name = .ok kind) :
    let r := Registry.builtin.after steps
    let definition := ofKind before name after
    let given := Options.ofJson (.object (before ++ after))
    property r path definition = located path (do buildKind r kind (← given)) ∧
      (normalizeKey kind = kind →
        (kind = hashKind ∨ kind = arrayKind → ∀ s ∈ steps, ¬ s.StoresKind kind) →
          property r path definition = located path (do r.buildProperty name (← given))) ∧
      (kind = hashKind ∨ kind = arrayKind → ∀ factory,
        property (r.registerKind kind factory) path definition = property r path definition ∧
          ∀ options, (r.registerKind kind factory).buildProperty name options =
            factory options (r.registerKind kind factory).directory) := by
  intro r definition given
  have closed : r.Closed := Registry.closed_builtin.after steps
  have builds := property_ofKind path plain known
  refine ⟨builds, ?_, ?_⟩
  · intro settled untouched
    have same : buildKind r kind = fun options => r.buildProperty name options := by
      funext options
      refine build_eq_buildProperty closed known settled ?_ ?_ options
      · rintro rfl
        exact (Registry.lookup_kinds_after (untouched (.inl rfl))).trans rfl
      · rintro rfl
        exact (Registry.lookup_kinds_after (untouched (.inr rfl))).trans rfl
    rw [builds, same]
  · intro container factory
    have settled := settled_of_container container
    have again := resolve_registerKind known settled factory
    have rebuilt := property_ofKind path plain again
    have rebuild : buildKind (r.registerKind kind factory) kind = buildKind r kind :=
      funext (build_registerKind container factory)
    refine ⟨?_, buildProperty_registerKind known settled factory⟩
    rw [builds, rebuilt, rebuild]

/-- The second name of a kind works in definitions, and arrays that are registered as texts stay
arrays there. -/
theorem replaced_arrays_stay_in_definitions :
    let steps : List Registration := [.leafKind "uuid" .string, .aliased "guid" "uuid"]
    let r := Registry.builtin.after steps
    let replaced := r.registerKind "array" (Registry.leafFactory "string" .string false)
    let lenient : List (String × Json) := [("required", .bool false)]
    property r "$" (ofKind lenient ":guid" []) =
        located "$" (do r.buildProperty ":guid" (← Options.ofJson (.object lenient))) ∧
      property replaced "$" (ofKind [] "Array" []) = property r "$" (ofKind [] "Array" []) ∧
      (∃ a, property replaced "$" (ofKind [] "Array" []) = .ok (.array a)) ∧
      ∃ l, replaced.buildProperty "Array" .empty = .ok (.leaf l) := by
  intro steps r replaced lenient
  have guid : r.resolve ":guid" = .ok "uuid" := rfl
  have array : r.resolve "Array" = .ok arrayKind := rfl
  have plain : Plain (lenient ++ []) := by
    intro field hfield
    rw [List.mem_singleton.mp hfield]
    decide
  have none_plain : Plain ([] ++ []) := by
    intro field hfield
    cases hfield
  have agreed := (definitions_build_by_kind "$" plain guid).2.1 rfl (absurd · (by decide))
  have kept := ((definitions_build_by_kind "$" none_plain array).2.2 (.inr rfl)
    (Registry.leafFactory "string" .string false)).1
  exact ⟨agreed, kept, ⟨_, rfl⟩, ⟨_, rfl⟩⟩

end Conform.Definition
