import Conform.Proofs.Loose
import Conform.Proofs.Positions

/-!
Where the faults of definitions are anchored. A fault is tied to the path of the definition that is
at fault, and passes through all those around it unchanged.
-/

namespace Conform.Definition
open Outcome

variable {r : Registry} {path kind : String} {d c : Json} {e : SchemaError} {n : Node}
  {built : Parts}

theorem at_of_located {α : Type} {x : Except SchemaError α} (hx : Loose x)
    (h : located path x = .error e) : At path e := by
  cases x with
  | ok a => cases h
  | error cause =>
    have hloose := hx cause rfl
    cases h
    cases cause with
    | invalidDefinition => cases hloose
    | _ => exact ⟨_, rfl⟩

theorem at_of_ofJson (h : Node.ofJson path d = .error e) : At path e := by
  unfold Node.ofJson at h
  split at h
  · cases h
  · split at h
    · cases h
    · exact at_of_fail h
    · exact at_of_fail h
  · exact at_of_fail h

theorem at_of_reject {keys : List String} (h : n.reject keys = .error e) : At n.path e := by
  unfold Node.reject at h
  split at h
  · exact at_of_fail h
  · cases h

theorem at_of_options (h : n.options = .error e) : At n.path e :=
  at_of_located (Options.loose_insertAll _ _) h

theorem looseStep_arraySteps (element : Option Property) (items optional : Option (List Property)) :
    LooseStep (arraySteps element items optional) := by
  refine (looseStep_option ArrayBuilder.looseStep_set element).bind fun _ => ?_
  refine (looseStep_option (fun ps => ?_) items).bind fun _ =>
    looseStep_option (fun ps => ?_) optional
  · exact ArrayBuilder.looseStep_fillBy (TupleBuilder.looseStep_pushAll ps)
      ArrayBuilder.loose_fillRequired
  · exact ArrayBuilder.looseStep_fillBy (TupleBuilder.looseStep_pushAll ps)
      ArrayBuilder.loose_fillOptional

theorem hash_error (h : hash n built = .error e) :
    (At n.path e ∧ n.reject ["element", "items", "optional_items"] = .error e) ∨
      (At n.path e ∧ ∃ children, built.children = .ok children) ∨ built.children = .error e := by
  simp only [hash, bind_eq_error_iff] at h
  rcases h with h | ⟨_, -, h | ⟨children, hchildren, h⟩⟩
  · exact .inl ⟨at_of_reject h, h⟩
  · exact .inr (.inr h)
  · refine .inr (.inl ⟨?_, children, hchildren⟩)
    rcases h with h | ⟨options, -, h⟩
    · exact at_of_options h
    · refine at_of_located (HashSchema.loose_defineWith ?_) h
      refine looseStep_forM ?_ children
      rintro ⟨name, p⟩
      exact HashBuilder.looseStep_insert name p

theorem array_error (h : array n built = .error e) :
    (At n.path e ∧ n.reject ["properties"] = .error e) ∨
      (At n.path e ∧ ∃ element items optional, built.element = .ok element ∧
        built.items = .ok items ∧ built.optionalItems = .ok optional) ∨
      built.element = .error e ∨ built.items = .error e ∨ built.optionalItems = .error e := by
  simp only [array, bind_eq_error_iff] at h
  rcases h with h | ⟨_, -, h | ⟨element, helement, h |
    ⟨items, hitems, h | ⟨optional, hoptional, h⟩⟩⟩⟩
  · exact .inl ⟨at_of_reject h, h⟩
  · exact .inr (.inr (.inl h))
  · exact .inr (.inr (.inr (.inl h)))
  · exact .inr (.inr (.inr (.inr h)))
  · refine .inr (.inl ⟨?_, element, items, optional, helement, hitems, hoptional⟩)
    rcases h with h | ⟨options, -, h⟩
    · exact at_of_options h
    · refine at_of_located (ArraySchema.loose_defineWith ?_) h
      have hsteps := looseStep_arraySteps element items optional
      cases element <;> cases items <;> cases optional <;> exact hsteps

theorem leaf_error (h : leaf .builtin kind n = .error e) : At n.path e := by
  simp only [leaf, bind_eq_error_iff] at h
  rcases h with h | ⟨_, -, h | ⟨options, -, h⟩⟩
  · exact at_of_reject h
  · exact at_of_options h
  · exact at_of_located (Registry.loose_buildProperty kind options) h

/-- The kind of the definitions that a step leads out of. -/
def Step.container : Step → String
  | property _ => hashKind
  | element | item .. => arrayKind

theorem hashKind_ne_arrayKind : hashKind ≠ arrayKind := by decide

theorem kind_of_leads {step : Step} (hn : Node.ofJson path d = .ok n)
    (shaped : Shaped kind n.fields) (leads : Leads step d c) : kind = step.container := by
  cases leads with
  | property hl _ =>
    rw [fields_of_ofJson hn] at shaped
    exact (shaped.properties _ hl).1
  | element hl _ =>
    rw [fields_of_ofJson hn] at shaped
    exact shaped.element _ hl
  | item hl _ =>
    rw [fields_of_ofJson hn] at shaped
    exact (shaped.positions _ (itemsKey_mem _) _ hl).1

/-- Every definition directly inside is built. -/
def BuiltInside (path : String) (d : Json) : Prop :=
  ∀ step c, Leads step d c → ∃ p, property .builtin (path ++ step.written) c = .ok p

/-- A definition is at fault itself: its kind cannot be told, its structural keys do not fit the
kind, or every definition directly inside is built. -/
def AtFault (path : String) (d : Json) : Prop :=
  ∀ n kind, Node.ofJson path d = .ok n → Registry.builtin.resolve n.kind = .ok kind →
    Shaped kind n.fields → BuiltInside path d

/-- A fault is tied to the path of the definition that is at fault. -/
structure Blames (path : String) (d : Json) (e : SchemaError) : Prop where
  anchored : At path e
  atFault : AtFault path d

theorem atFault_of_kind (hn : Node.ofJson path d = .ok n)
    (hkind : Registry.builtin.resolve n.kind = .ok kind)
    (h : Shaped kind n.fields → BuiltInside path d) : AtFault path d := by
  intro n' kind' hn' hkind' shaped
  cases hn.symm.trans hn'
  cases hkind.symm.trans hkind'
  exact h shaped

theorem builtInside_of_hash {children : List (String × Property)}
    (hn : Node.ofJson path d = .ok n) (shaped : Shaped hashKind n.fields)
    (h : (parts .builtin path d).children = .ok children) : BuiltInside path d := by
  intro step c leads
  have hkind := kind_of_leads hn shaped leads
  cases leads with
  | property hl hc =>
    obtain ⟨p, -, hp⟩ := children_built_at h (.property hl hc)
    exact ⟨p, hp⟩
  | element | item => exact (hashKind_ne_arrayKind hkind).elim

theorem builtInside_of_array {element : Option Property} {items optional : Option (List Property)}
    (hn : Node.ofJson path d = .ok n) (shaped : Shaped arrayKind n.fields)
    (helement : (parts .builtin path d).element = .ok element)
    (hitems : (parts .builtin path d).items = .ok items)
    (hoptional : (parts .builtin path d).optionalItems = .ok optional) : BuiltInside path d := by
  intro step c leads
  have hkind := kind_of_leads hn shaped leads
  cases leads with
  | property => exact (hashKind_ne_arrayKind hkind.symm).elim
  | element hl hc =>
    obtain ⟨p, -, hp⟩ := element_built_at helement (.element hl hc)
    exact ⟨p, hp⟩
  | @item _ later _ _ _ hl hc =>
    cases later with
    | false =>
      obtain ⟨_, p, -, -, hp⟩ := items_built_at false hitems (.item hl hc)
      exact ⟨p, hp⟩
    | true =>
      obtain ⟨_, p, -, -, hp⟩ := items_built_at true hoptional (.item hl hc)
      exact ⟨p, hp⟩

theorem builtInside_of_leaf (hn : Node.ofJson path d = .ok n) (shaped : Shaped kind n.fields)
    (noHash : kind ≠ hashKind) (noArray : kind ≠ arrayKind) : BuiltInside path d := by
  intro step c leads
  have hkind := kind_of_leads hn shaped leads
  cases step with
  | property => exact (noHash hkind).elim
  | element | item => exact (noArray hkind).elim

theorem parts_error (hn : Node.ofJson path d = .ok n)
    (h : (parts .builtin path d).children = .error e ∨ (parts .builtin path d).element = .error e ∨
      (parts .builtin path d).items = .error e ∨ (parts .builtin path d).optionalItems = .error e) :
    Blames path d e ∨ FailsInside .builtin path d e := by
  cases d with
  | object fields =>
    have blames : (At path e ∧ ∀ kind, ¬ Shaped kind fields) → Blames path (.object fields) e := by
      rintro ⟨anchored, unshaped⟩
      refine ⟨anchored, fun n' kind hn' _ shaped => ?_⟩
      rw [fields_of_ofJson hn'] at shaped
      exact (unshaped kind shaped).elim
    rcases h with h | h | h | h
    · exact (children_error h).imp_left blames
    · exact .inr (element_error h)
    · exact (items_error false h).imp_left blames
    · exact (items_error true h).imp_left blames
  | _ => rcases h with h | h | h | h <;> cases h

theorem hash_blames (hn : Node.ofJson path d = .ok n)
    (hkind : Registry.builtin.resolve n.kind = .ok hashKind)
    (h : hash n (parts .builtin path d) = .error e) :
    Blames path d e ∨ FailsInside .builtin path d e := by
  obtain rfl := path_of_ofJson hn
  rcases hash_error h with ⟨anchored, refused⟩ | ⟨anchored, _, hchildren⟩ | h
  · refine .inl ⟨anchored, atFault_of_kind hn hkind fun shaped => ?_⟩
    rw [shaped.accepts_hash rfl] at refused
    cases refused
  · exact .inl ⟨anchored, atFault_of_kind hn hkind fun shaped =>
      builtInside_of_hash hn shaped hchildren⟩
  · exact parts_error hn (.inl h)

theorem array_blames (hn : Node.ofJson path d = .ok n)
    (hkind : Registry.builtin.resolve n.kind = .ok arrayKind)
    (h : array n (parts .builtin path d) = .error e) :
    Blames path d e ∨ FailsInside .builtin path d e := by
  obtain rfl := path_of_ofJson hn
  rcases array_error h with
    ⟨anchored, refused⟩ | ⟨anchored, _, _, _, helement, hitems, hoptional⟩ | h
  · refine .inl ⟨anchored, atFault_of_kind hn hkind fun shaped => ?_⟩
    rw [shaped.accepts_array hashKind_ne_arrayKind.symm] at refused
    cases refused
  · exact .inl ⟨anchored, atFault_of_kind hn hkind fun shaped =>
      builtInside_of_array hn shaped helement hitems hoptional⟩
  · exact parts_error hn (.inr h)

/-- A definition is to blame for its fault, or one inside fails with the same fault. -/
theorem property_error (h : property .builtin path d = .error e) :
    Blames path d e ∨ FailsInside .builtin path d e := by
  rw [property_eq, assemble, bind_eq_error_iff] at h
  rcases h with h | ⟨n, hn, h⟩
  · refine .inl ⟨at_of_ofJson h, fun n' kind hn' _ _ => ?_⟩
    rw [h] at hn'
    cases hn'
  have hpath := path_of_ofJson hn
  rw [bind_eq_error_iff, Node.resolve, hpath] at h
  rcases h with h | ⟨kind, hkind, h⟩
  · refine .inl ⟨at_of_located (Registry.loose_resolve _ _) h, fun n' kind hn' hkind _ => ?_⟩
    cases hn.symm.trans hn'
    rw [hkind] at h
    cases h
  rw [located, mapError_eq_ok_iff] at hkind
  split at h
  · rename_i hhash
    rcases bind_eq_error_iff.mp h with h | ⟨_, -, h⟩
    · exact hash_blames hn (hhash ▸ hkind) h
    · cases h
  · rename_i noHash
    split at h
    · rename_i harray
      rcases bind_eq_error_iff.mp h with h | ⟨_, -, h⟩
      · exact array_blames hn (harray ▸ hkind) h
      · cases h
    · rename_i noArray
      exact .inl ⟨hpath ▸ leaf_error h, atFault_of_kind hn hkind fun shaped =>
        builtInside_of_leaf hn shaped noHash noArray⟩

/-- A fault is tied to the path of a definition inside, which is at fault itself and fails with that
very fault when it is built there on its own. -/
def Locates (path : String) (d : Json) (e : SchemaError) : Prop :=
  ∃ position c, Found position d c ∧ Blames (path ++ position.written) c e ∧
    property .builtin (path ++ position.written) c = .error e

/-- Induction on the definition: a fault of a definition inside is located from there on. -/
theorem locates_of_error (h : property .builtin path d = .error e) : Locates path d e := by
  induction d using induct generalizing path with
  | step d ih =>
    rcases property_error h with here | ⟨step, c, leads, hfail⟩
    · refine ⟨[], d, .here, ?_⟩
      rw [Position.written, String.append_empty]
      exact ⟨here, h⟩
    · obtain ⟨rest, b, found, blamed, again⟩ := ih c leads.child hfail
      refine ⟨step :: rest, b, .inside leads found, ?_⟩
      rw [Position.written, ← String.append_assoc]
      exact ⟨blamed, again⟩

theorem schema_error (h : schema r d = .error e) : property r root d = .error e ∨
    ∃ n kind, Node.ofJson root d = .ok n ∧ r.resolve n.kind = .ok kind ∧ kind ≠ hashKind ∧
      kind ≠ arrayKind ∧ e = .invalidDefinition root (.notContainer kind) := by
  rw [property_eq, assemble]
  rcases bind_eq_error_iff.mp h with h | ⟨n, hn, h⟩
  · exact .inl (bind_eq_error_iff.mpr (.inl h))
  rw [hn, ok_bind]
  rcases bind_eq_error_iff.mp h with h | ⟨kind, hkind, h⟩
  · exact .inl (bind_eq_error_iff.mpr (.inl h))
  rw [hkind, ok_bind]
  split at h
  · rename_i hhash
    rw [if_pos hhash]
    refine .inl ?_
    rcases bind_eq_error_iff.mp h with h | ⟨_, -, h⟩
    · exact bind_eq_error_iff.mpr (.inl h)
    · cases h
  · rename_i hhash
    rw [if_neg hhash]
    split at h
    · rename_i harray
      rw [if_pos harray]
      refine .inl ?_
      rcases bind_eq_error_iff.mp h with h | ⟨_, -, h⟩
      · exact bind_eq_error_iff.mpr (.inl h)
      · cases h
    · rename_i harray
      refine .inr ⟨n, kind, rfl, mapError_eq_ok_iff.mp hkind, hhash, harray, ?_⟩
      cases h
      rfl

/-- Every fault of a definition names where it is: its path is that of a definition inside, or of
the whole one, which is at fault itself and fails with the very same fault when it is built at that
path on its own. Of schemas the same holds, but for the fault that the whole definition is of a
kind that is no container. -/
theorem faults_name_positions (d : Json) (e : SchemaError) :
    (∀ path, property .builtin path d = .error e → Locates path d e) ∧
      (schema .builtin d = .error e → Locates root d e ∨
        ∃ n kind, Node.ofJson root d = .ok n ∧ Registry.builtin.resolve n.kind = .ok kind ∧
          kind ≠ hashKind ∧ kind ≠ arrayKind ∧
            e = .invalidDefinition root (.notContainer kind)) :=
  ⟨fun _ => locates_of_error, fun h => (schema_error h).imp_left locates_of_error⟩

/-- One of the definitions inside names a validator that there is not. -/
def misspelled : Json := .object [("type", .string "integer"), ("shorter_than", .number (.ofNat 3))]

def tagged : Json := .object [("type", .string "hash"), ("properties", .object [
  ("tags", .object [("type", .string "array"), ("items", .array [.string "string", misspelled])])])]

def misspelling : SchemaError :=
  .invalidDefinition "$.properties.tags.items[1]" (.construction (.unknownValidator "shorter_than"))

/-- The fault of a definition two levels down names its path, and that definition alone fails there
with it. -/
theorem misspelling_is_named :
    schema .builtin tagged = .error misspelling ∧
      Found [.property "tags", .item false 1] tagged misspelled ∧
      property .builtin "$.properties.tags.items[1]" misspelled = .error misspelling ∧
      (Locates root tagged misspelling ∨
        ∃ n kind, Node.ofJson root tagged = .ok n ∧ Registry.builtin.resolve n.kind = .ok kind ∧
          kind ≠ hashKind ∧ kind ≠ arrayKind ∧
            misspelling = .invalidDefinition root (.notContainer kind)) := by
  have hfail : schema .builtin tagged = .error misspelling := rfl
  have found : Found [.property "tags", .item false 1] tagged misspelled :=
    .inside (.property rfl (.head _)) (.inside (.item rfl rfl) .here)
  exact ⟨hfail, found, rfl, (faults_name_positions tagged misspelling).2 hfail⟩

end Conform.Definition
