import Conform.Proofs.Definitions
import Conform.Proofs.Judgement

/-!
Where the leaves of a schema come from: whatever a definition looks like, the registry made each of
them from the options of some node.
-/

namespace Conform
open Outcome

/-- A registry makes a leaf, on its own or inside a property. -/
def Registry.Makes (r : Registry) (l : Leaf) : Prop :=
  ∃ kind options p, r.buildProperty kind options = .ok p ∧ Occurs l p

namespace ArrayBuilder

/-- A step brings no property into an array but those of a list. -/
def Brings (x : Step Id) (new : List Property) : Prop :=
  ∀ a t, x.after? a = some ((), t) → ∀ p ∈ t.mode.properties, p ∈ a.mode.properties ∨ p ∈ new

variable {x y : Step Id} {xs ys : List Property}

theorem brings_nothing : Brings (pure ()) [] := by
  intro a t h p hp
  cases h
  exact .inl hp

theorem Brings.andThen (hx : Brings x xs) (hy : Brings y ys) :
    Brings (do x; y) (xs ++ ys) := by
  intro a t h p hp
  rw [AttemptT.after?_bind, Option.bind_eq_some_iff] at h
  obtain ⟨⟨_, b⟩, hb, ht⟩ := h
  rcases hy b t ht p hp with hp | hp
  · rcases hx a b hb p hp with hp | hp
    · exact .inl hp
    · exact .inr (List.mem_append_left _ hp)
  · exact .inr (List.mem_append_right _ hp)

theorem brings_forM {α : Type} {step : α → Step Id} {new : α → List Property}
    (h : ∀ b, Brings (step b) (new b)) (o : Option α) :
    Brings (o.forM step) ((o.map new).getD []) := by
  cases o with
  | none => exact brings_nothing
  | some b => exact h b

theorem mem_brought {α : Type} {new : α → List Property} {o : Option α} {p : Property} :
    p ∈ (o.map new).getD [] ↔ ∃ b, o = some b ∧ p ∈ new b := by
  cases o <;> simp

theorem brings_set (p : Property) : Brings (set p) [p] := by
  intro a t h q hq
  rw [set_after?, Option.map_eq_some_iff] at h
  obtain ⟨_, _, heq⟩ := h
  cases heq
  exact .inr hq

theorem brings_filled {ps : List Property}
    {filled : List Property → ArrayMode Property → Except SchemaError (ArrayMode Property)}
    (hf : ∀ mode next, filled ps mode = .ok next →
      ∀ p ∈ next.properties, p ∈ mode.properties ∨ p ∈ ps) :
    Brings (fillBy filled (ps.forM TupleBuilder.push)) ps := by
  intro a t h p hp
  rw [fillBy_after?, TupleBuilder.pushAll_after?, Option.bind_eq_some_iff] at h
  obtain ⟨_, _, h⟩ := h
  rw [Option.bind_some, List.nil_append] at h
  split at h
  · cases h
  · obtain ⟨next, hnext, heq⟩ := Option.map_eq_some_iff.mp h
    cases heq
    exact hf a.mode next (toOption_eq_some_iff.mp hnext) p hp

theorem mem_of_fillRequired {ps : List Property} {mode next : ArrayMode Property} {p : Property}
    (h : fillRequired ps mode = .ok next) (hp : p ∈ next.properties) :
    p ∈ mode.properties ∨ p ∈ ps := by
  unfold fillRequired at h
  split at h <;> cases h
  · rcases List.mem_append.mp hp with hp | hp
    · exact .inr hp
    · exact .inl hp
  · exact .inr (by simpa [ArrayMode.properties] using hp)

theorem mem_of_fillOptional {ps : List Property} {mode next : ArrayMode Property} {p : Property}
    (h : fillOptional ps mode = .ok next) (hp : p ∈ next.properties) :
    p ∈ mode.properties ∨ p ∈ ps := by
  unfold fillOptional at h
  split at h <;> cases h
  · rcases List.mem_append.mp hp with hp | hp
    · exact .inl (List.mem_append_left _ hp)
    · exact .inr hp
  · exact .inr (by simpa [ArrayMode.properties] using hp)

theorem brings_items (ps : List Property) :
    Brings (items (ps.forM TupleBuilder.push)) ps :=
  brings_filled fun _ _ h _ hp => mem_of_fillRequired h hp

theorem brings_optionalItems (ps : List Property) :
    Brings (optionalItems (ps.forM TupleBuilder.push)) ps :=
  brings_filled fun _ _ h _ hp => mem_of_fillOptional h hp

end ArrayBuilder

theorem HashBuilder.insertAll_properties {children : List (String × Property)}
    {h t : HashSchema Property}
    (ht : AttemptT.after? (children.forM fun entry => insert (m := Id) entry.1 entry.2) h =
      some ((), t)) : t.properties = h.properties ++ children := by
  induction children generalizing h with
  | nil =>
    cases ht
    simp
  | cons entry rest ih =>
    rw [List.forM_eq_forM] at ht ih
    rw [List.forM_cons, AttemptT.after?_bind, insert_after?, Option.bind_eq_some_iff] at ht
    obtain ⟨⟨_, u⟩, hu, ht⟩ := ht
    obtain ⟨_, _, heq⟩ := Option.map_eq_some_iff.mp hu
    cases heq
    rw [ih ht, List.append_assoc]
    rfl

namespace Definition
variable {r : Registry} {path key : String} {d c : Json} {fields : List (String × Json)}
  {p q : Property} {l : Leaf} {s : Schema}

/-- A definition that stands directly inside another builds the property. -/
def BuildsInside (r : Registry) (d : Json) (q : Property) : Prop :=
  ∃ c path, Child c d ∧ property r path c = .ok q

theorem exists_of_mem_children {name : String} {children : List (String × Property)}
    (hok : properties r path fields = .ok children) (hp : (name, p) ∈ children) :
    ∃ d, (name, d) ∈ fields ∧ property r (path ++ ".properties." ++ name) d = .ok p := by
  rw [properties_eq_mapM] at hok
  obtain ⟨⟨_, d⟩, hd, hentry⟩ := exists_of_mem_mapM hok hp
  obtain ⟨_, hbuilt, heq⟩ := map_eq_ok_iff.mp hentry
  cases heq
  exact ⟨d, hd, hbuilt⟩

theorem exists_of_mem_elements {items : List Json} {index : Nat} {ps : List Property}
    (hok : elements r path index items = .ok ps) (hp : p ∈ ps) :
    ∃ d path, d ∈ items ∧ property r path d = .ok p := by
  rw [elements_eq_mapM] at hok
  obtain ⟨⟨d, _⟩, hd, hbuilt⟩ := exists_of_mem_mapM hok hp
  exact ⟨d, _, List.fst_mem_of_mem_zipIdx hd, hbuilt⟩

/-- Every finished property among the parts of a definition is built by a definition inside. -/
structure Parts.Built (r : Registry) (d : Json) (parts : Parts) : Prop where
  children : ∀ qs, parts.children = .ok qs → ∀ q ∈ qs.map (·.2), BuildsInside r d q
  element : ∀ q, parts.element = .ok (some q) → BuildsInside r d q
  items : ∀ qs, parts.items = .ok (some qs) → ∀ q ∈ qs, BuildsInside r d q
  optionalItems : ∀ qs, parts.optionalItems = .ok (some qs) → ∀ q ∈ qs, BuildsInside r d q

theorem children_built {qs : List (String × Property)} (h : children r path fields = .ok qs)
    (hq : q ∈ qs.map (·.2)) : BuildsInside r (.object fields) q := by
  rw [children_eq] at h
  split at h
  · cases h
    cases hq
  · cases h
    cases hq
  · rename_i entries hl
    obtain ⟨⟨name, _⟩, hmem, rfl⟩ := List.mem_map.mp hq
    obtain ⟨c, hc, hok⟩ := exists_of_mem_children h hmem
    exact ⟨c, _, .property hl hc, hok⟩
  · cases h

theorem element_built (h : element r path fields = .ok (some q)) :
    BuildsInside r (.object fields) q := by
  rw [element_eq] at h
  split at h
  · cases h
  · cases h
  · rename_i c hne hl
    obtain ⟨p, hp, heq⟩ := map_eq_ok_iff.mp h
    cases heq
    exact ⟨c, _, .element hl (by rintro rfl; exact hne rfl), hp⟩

theorem positions_built {qs : List Property} (hkey : key ∈ ["items", "optional_items"])
    (h : positions r path key fields = .ok (some qs)) (hq : q ∈ qs) :
    BuildsInside r (.object fields) q := by
  rw [positions_eq] at h
  split at h
  · cases h
  · cases h
  · rename_i items hl
    obtain ⟨ps, hps, heq⟩ := map_eq_ok_iff.mp h
    cases heq
    obtain ⟨c, path', hc, hok⟩ := exists_of_mem_elements hps hq
    exact ⟨c, path', .position hkey hl hc, hok⟩
  · cases h

theorem parts_built (r : Registry) (path : String) (d : Json) : (parts r path d).Built r d := by
  by_cases hd : ∃ fields, d = .object fields
  · obtain ⟨fields, rfl⟩ := hd
    exact ⟨fun _ h _ hq => children_built h hq, fun _ h => element_built h,
      fun _ h _ hq => positions_built (by simp) h hq,
      fun _ h _ hq => positions_built (by simp) h hq⟩
  · have hnone : parts r path d = Parts.none := by
      cases d with
      | object fields => exact (hd ⟨fields, rfl⟩).elim
      | _ => rfl
    rw [hnone]
    refine ⟨?_, ?_, ?_, ?_⟩
    · intro qs h q hq
      cases h
      cases hq
    · intro q h
      cases h
    · intro qs h
      cases h
    · intro qs h
      cases h

variable {n : Node} {parts : Parts}

theorem inside_of_hash {h : HashSchema Property} (hb : parts.Built r d)
    (hok : hash n parts = .ok h) {name : String} (hq : (name, q) ∈ h.properties) :
    BuildsInside r d q := by
  obtain ⟨children, options, start, -, hc, -, hstart, hsteps⟩ := hash_eq_ok hok
  obtain ⟨⟨_, t⟩, ht, rfl⟩ := Option.map_eq_some_iff.mp hsteps
  rw [HashBuilder.insertAll_properties ht, HashSchema.properties_of_ofOptions hstart,
    List.nil_append] at hq
  exact hb.children children hc _ (List.mem_map_of_mem hq)

theorem inside_of_array {a : ArraySchema Property} (hb : parts.Built r d)
    (hok : array n parts = .ok a) (hq : q ∈ a.mode.properties) : BuildsInside r d q := by
  obtain ⟨element, items, optional, options, start, -, he, hi, hopt, -, hstart, hsteps⟩ :=
    array_eq_ok hok
  obtain ⟨⟨_, t⟩, ht, rfl⟩ := Option.map_eq_some_iff.mp hsteps
  have brings := (ArrayBuilder.brings_forM ArrayBuilder.brings_set element).andThen
    ((ArrayBuilder.brings_forM ArrayBuilder.brings_items items).andThen
      (ArrayBuilder.brings_forM ArrayBuilder.brings_optionalItems optional))
  rcases brings start t ht q hq with hq | hq
  · rw [ArraySchema.mode_of_ofOptions hstart] at hq
    cases hq
  · simp only [List.mem_append, ArrayBuilder.mem_brought] at hq
    rcases hq with ⟨p, rfl, hq⟩ | ⟨ps, rfl, hq⟩ | ⟨ps, rfl, hq⟩
    · obtain rfl := List.mem_singleton.mp hq
      exact hb.element q he
    · exact hb.items ps hi q hq
    · exact hb.optionalItems ps hopt q hq

/-- What holds of the properties that a registry makes, and of a container that a definition builds
when it holds of all properties inside, holds of whatever definitions describe. -/
theorem property_induct {motive : Property → Prop}
    (made : ∀ kind options p, r.buildProperty kind options = .ok p → motive p)
    (ofHash : ∀ {n : Node} {parts : Parts} {h : HashSchema Property}, hash n parts = .ok h →
      (∀ name p, (name, p) ∈ h.properties → motive p) → motive (.hash h))
    (ofArray : ∀ {n : Node} {parts : Parts} {a : ArraySchema Property}, array n parts = .ok a →
      (∀ p ∈ a.mode.properties, motive p) → motive (.array a))
    (h : property r path d = .ok p) : motive p := by
  induction d using induct generalizing path p with
  | step d ih =>
    have inside : ∀ q, BuildsInside r d q → motive q := by
      rintro q ⟨c, path', hc, hq⟩
      exact ih c hc hq
    have built := parts_built r path d
    cases builds_of_property h with
    | hash _ hok => exact ofHash hok fun name q hq => inside q (inside_of_hash built hok hq)
    | array _ hok => exact ofArray hok fun q hq => inside q (inside_of_array built hok hq)
    | leaf _ _ _ _ hok =>
      obtain ⟨options, -, -, hp⟩ := leaf_eq_ok hok
      exact made _ options p hp

/-- Every leaf of what a definition describes was made by the registry. -/
theorem makes_of_occurs (h : property r path d = .ok p) (ho : Occurs l p) : r.Makes l := by
  have all : ∀ l, Occurs l p → r.Makes l := by
    refine property_induct (motive := fun p => ∀ l, Occurs l p → r.Makes l) ?_ ?_ ?_ h
    · intro kind options p hp l ho
      exact ⟨kind, options, p, hp, ho⟩
    · intro n parts h _ inside l ho
      cases ho with
      | field hq ho => exact inside _ _ hq l ho
    · intro n parts a _ inside l ho
      cases ho with
      | element hq ho => exact inside _ hq l ho
  exact all l ho

/-- A definition of a schema is one of a property. -/
theorem property_of_schema (h : schema r d = .ok s) : property r root d = .ok s.toProperty := by
  rw [property_eq, assemble]
  obtain ⟨n, hn, h⟩ := bind_eq_ok_iff.mp h
  obtain ⟨kind, hk, h⟩ := bind_eq_ok_iff.mp h
  rw [hn, ok_bind, hk, ok_bind]
  split at h
  · rename_i hkind
    obtain ⟨x, hx, heq⟩ := bind_eq_ok_iff.mp h
    cases heq
    rw [if_pos hkind, hx]
    rfl
  · rename_i hkind
    rw [if_neg hkind]
    split at h
    · rename_i hkind
      obtain ⟨x, hx, heq⟩ := bind_eq_ok_iff.mp h
      cases heq
      rw [if_pos hkind, hx]
      rfl
    · cases h

end Definition

namespace Validator
variable {name : String} {config : Json} {w : Validator}

theorem isZero_of_divisorFor {n : Number} (h : divisorFor name config = .ok n) :
    (Numeric.ofNumber n).isZero = false := by
  obtain ⟨m, _, h⟩ := bind_eq_ok_iff.mp h
  cases hz : (Numeric.ofNumber m).isZero with
  | true =>
    simp only [hz] at h
    cases h
  | false =>
    simp only [hz] at h
    cases h
    exact hz

theorem isBuiltin_of_build (h : build name config = .ok w) : w.IsBuiltin := by
  unfold build at h
  split at h
  case h_7 | h_8 =>
    obtain ⟨n, hn, rfl⟩ := map_eq_ok_iff.mp h
    exact isZero_of_divisorFor hn
  case h_14 => cases h
  all_goals
    obtain ⟨_, _, rfl⟩ := map_eq_ok_iff.mp h
    trivial

end Validator

/-- A table of validators makes builtin ones only. -/
def ValidatorTable.IsBuiltin (table : ValidatorTable) : Prop :=
  ∀ name config w, table.build name config = .ok w → w.IsBuiltin

theorem Registry.validator_of_lookup {name : String} {factory : ValidatorFactory}
    (h : Assoc.lookup name builtin.validators = some factory) :
    name ∈ Validator.builtinNames ∧ factory = Validator.build name := by
  obtain ⟨known, hknown, heq⟩ := List.mem_map.mp (Assoc.mem_of_lookup h)
  cases heq
  exact ⟨hknown, rfl⟩

theorem Registry.builtin_validators : Registry.builtin.validators.IsBuiltin := by
  intro name config w h
  unfold ValidatorTable.build at h
  split at h
  · rename_i factory hf
    obtain ⟨-, rfl⟩ := validator_of_lookup hf
    exact Validator.isBuiltin_of_build h
  · cases h

namespace Leaf
variable {table : ValidatorTable} {entries : List (String × Json)} {l k : Leaf}

theorem IsBuiltin.addValidator {w : Validator} (hl : l.IsBuiltin) (hw : w.IsBuiltin)
    (h : l.addValidator w = .ok k) : k.IsBuiltin := by
  unfold Leaf.addValidator at h
  split at h
  · cases h
  · cases h
    refine ⟨hl.1, ?_⟩
    intro x hx
    rcases List.mem_append.mp hx with hx | hx
    · exact hl.2 x hx
    · obtain rfl := List.mem_singleton.mp hx
      exact hw

theorem IsBuiltin.addOptions (ht : table.IsBuiltin) (hl : l.IsBuiltin)
    (h : l.addOptions table entries = .ok k) : k.IsBuiltin := by
  induction entries generalizing l with
  | nil =>
    cases h
    exact hl
  | cons entry rest ih =>
    obtain ⟨name, config⟩ := entry
    rw [Leaf.addOptions, bind_eq_ok_iff] at h
    obtain ⟨w, hw, h⟩ := h
    obtain ⟨m, hm, h⟩ := bind_eq_ok_iff.mp h
    exact ih (hl.addValidator (ht name config w hw) hm) h

theorem IsBuiltin.ofOptions {kind : String} {test : TypeTest} {options : Options}
    (ht : table.IsBuiltin) (htest : test.IsBuiltin)
    (h : ofOptions kind test options table = .ok l) : l.IsBuiltin := by
  simp only [Leaf.ofOptions] at h
  split at h
  · rename_i m rest houtcome
    refine IsBuiltin.addOptions ht ?_ h
    have taken := AttemptT.after?_of_outcome houtcome
    simp only [AttemptT.after?_bind, AttemptT.after?_pure, Option.bind_eq_some_iff] at taken
    obtain ⟨_, _, _, _, heq⟩ := taken
    cases heq
    exact ⟨htest, by simp [Leaf.new]⟩
  · cases h

end Leaf

namespace Registry
variable {r : Registry} {l : Leaf}

theorem isBuiltin_of_leafFactory {kind : String} {test : TypeTest} {forceNil : Bool}
    {options : Options} {directory : Directory} {p : Property}
    (ht : directory.validators.IsBuiltin) (htest : test.IsBuiltin)
    (h : leafFactory kind test forceNil options directory = .ok p) : p.IsBuiltin := by
  obtain ⟨k, hk, heq⟩ := bind_eq_ok_iff.mp h
  have hbuiltin : k.IsBuiltin := .ofOptions ht htest hk
  intro l hl
  cases heq
  cases hl
  cases forceNil <;> exact hbuiltin

theorem leafKinds_isBuiltin : ∀ entry ∈ leafKinds, entry.2.IsBuiltin := by
  simp [leafKinds, TypeTest.IsBuiltin]

/-- What a builtin kind is registered with. -/
inductive BuiltinFactory : String → PropertyFactory → Prop where
  | leaf {kind : String} {test : TypeTest} (known : (kind, test) ∈ leafKinds) :
    BuiltinFactory kind (leafFactory kind test (kind == "nil"))
  | array : BuiltinFactory arrayKind arrayFactory
  | hash : BuiltinFactory hashKind hashFactory

theorem factory_of_lookup {kind : String} {factory : PropertyFactory}
    (h : Assoc.lookup kind builtin.kinds = some factory) : BuiltinFactory kind factory := by
  rcases List.mem_append.mp (Assoc.mem_of_lookup h) with hmem | hmem
  · obtain ⟨⟨kind, test⟩, hkind, heq⟩ := List.mem_map.mp hmem
    cases heq
    exact .leaf hkind
  · rcases List.mem_cons.mp hmem with heq | hmem
    · cases heq
      exact .array
    · cases List.mem_singleton.mp hmem
      exact .hash

/-- A builtin kind makes a leaf, or an empty container from its options. -/
inductive BuiltinMakes (options : Options) : Property → Prop where
  | leaf {kind : String} {test : TypeTest} {forceNil : Bool} {p : Property}
    (known : (kind, test) ∈ leafKinds)
    (made : leafFactory kind test forceNil options builtin.directory = .ok p) :
    BuiltinMakes options p
  | array {a : ArraySchema Property} (made : ArraySchema.ofOptions options = .ok a) :
    BuiltinMakes options (.array a)
  | hash {h : HashSchema Property} (made : HashSchema.ofOptions options = .ok h) :
    BuiltinMakes options (.hash h)

theorem builtinMakes_of_buildProperty {kind : String} {options : Options} {p : Property}
    (h : builtin.buildProperty kind options = .ok p) : BuiltinMakes options p := by
  obtain ⟨name, _, h⟩ := bind_eq_ok_iff.mp h
  split at h
  · rename_i factory hf
    cases factory_of_lookup hf with
    | leaf known => exact .leaf known h
    | array =>
      obtain ⟨a, ha, rfl⟩ := map_eq_ok_iff.mp h
      exact .array ha
    | hash =>
      obtain ⟨s, hs, rfl⟩ := map_eq_ok_iff.mp h
      exact .hash hs
  · cases h

theorem isBuiltin_of_buildProperty {kind : String} {options : Options} {p : Property}
    (h : builtin.buildProperty kind options = .ok p) : p.IsBuiltin := by
  cases builtinMakes_of_buildProperty h with
  | leaf known made =>
    refine isBuiltin_of_leafFactory ?_ (leafKinds_isBuiltin _ known) made
    exact builtin_validators
  | array made =>
    intro l hl
    cases hl with
    | element hp _ =>
      rw [ArraySchema.mode_of_ofOptions made] at hp
      cases hp
  | hash made =>
    intro l hl
    cases hl with
    | field hp _ =>
      rw [HashSchema.properties_of_ofOptions made] at hp
      cases hp

theorem isBuiltin_of_makes (h : builtin.Makes l) : l.IsBuiltin := by
  obtain ⟨kind, options, p, hp, ho⟩ := h
  exact isBuiltin_of_buildProperty hp l ho

end Registry

/-- Definitions over the builtin registry make builtin schemas. -/
theorem Definition.isBuiltin_of_schema {d : Json} {s : Schema}
    (h : schema .builtin d = .ok s) : s.toProperty.IsBuiltin := by
  intro l hl
  exact Registry.isBuiltin_of_makes (makes_of_occurs (property_of_schema h) hl)

end Conform
