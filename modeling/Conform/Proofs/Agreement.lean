import Conform.Proofs.Programs

/-!
Definitions and builder programs agree. A definition finishes the properties inside a container
before it builds the container; a program builds them while it does.
-/

namespace Conform
open Outcome

/-- A block leaves behind what a step made of finished parts does, if the parts can be finished. -/
def Performs {σ : Type} (block : AttemptT Id σ Unit) (step : Option (AttemptT Id σ Unit)) : Prop :=
  ∀ s, block.after? s = step.bind fun x => x.after? s

section Blocks
variable {σ : Type} {block other : AttemptT Id σ Unit} {step next : Option (AttemptT Id σ Unit)}

theorem performs_done : Performs (pure () : AttemptT Id σ Unit) (some (pure ())) := by
  intro s
  rfl

theorem Performs.andThen (h : Performs block step) (hn : Performs other next) :
    Performs (do block; other) (step.bind fun x => next.map fun y => do x; y) := by
  intro s
  cases step with
  | none => simp [h s]
  | some x =>
    cases next with
    | none =>
      have hnone : ∀ t, other.after? t = none := hn
      simp [h s, hnone]
    | some y =>
      have hsome : ∀ t, other.after? t = y.after? t := hn
      simp [h s, hsome]

theorem performs_given {α : Type} {given : Except SchemaError α} {block : α → AttemptT Id σ Unit}
    {step : α → Option (AttemptT Id σ Unit)} (h : ∀ a, Performs (block a) (step a)) :
    Performs (do block (← AttemptT.ofExcept given)) (given.toOption.bind step) := by
  intro s
  cases given with
  | error e => rfl
  | ok a => simpa using h a s

/-- What is added may as well be finished before the check. -/
theorem performs_checked {α : Type} (check : AttemptT Id σ Unit) (add : α → AttemptT Id σ Unit)
    (made : Except SchemaError α) :
    Performs (do check; add (← AttemptT.ofExcept made))
      (made.toOption.map fun a => do check; add a) := by
  intro s
  cases made with
  | error e => simp
  | ok a => simp

/-- One part after another: what the first is for is done before what the others are for. -/
theorem Performs.cons {α β : Type} {first : Except SchemaError α} {rest : Except SchemaError β}
    {f : α → AttemptT Id σ Unit} {g : β → AttemptT Id σ Unit} {cons : α → β → β}
    (hcons : ∀ a b, g (cons a b) = do f a; g b) (h : Performs block (first.toOption.map f))
    (hr : Performs other (rest.toOption.map g)) :
    Performs (do block; other) ((do
      let a ← first
      return cons a (← rest) : Except SchemaError β).toOption.map g) := by
  have both := h.andThen hr
  cases first with
  | error e => exact both
  | ok a =>
    cases rest with
    | error e => exact both
    | ok b => simpa [hcons] using both

end Blocks

namespace Call
variable (r : Registry)

/-- The property that a call adds, built on its own. -/
def build : Call → Except SchemaError Property
  | leaf kind options => do r.buildProperty kind (← Options.ofJson options)
  | hash options block => do
    (Id.run (HashSchema.defineWith (← Options.ofJson options) block)).map .hash
  | array options block => do
    (Id.run (ArraySchema.defineWith (← Options.ofJson options) block)).map .array

/-- A builder that checks first and then adds what a call builds. -/
theorem performs_call {σ : Type} {on : Call → AttemptT Id σ Unit} (check : AttemptT Id σ Unit)
    (add : Property → AttemptT Id σ Unit)
    (hleaf : ∀ kind options, on (leaf kind options) = do
      let o ← AttemptT.ofExcept (Options.ofJson options)
      check
      add (← AttemptT.ofExcept (r.buildProperty kind o)))
    (hhash : ∀ options block, on (hash options block) = do
      let o ← AttemptT.ofExcept (Options.ofJson options)
      check
      add (.hash (← AttemptT.ofBlock (m := Id) (HashSchema.defineWith o block))))
    (harray : ∀ options block, on (array options block) = do
      let o ← AttemptT.ofExcept (Options.ofJson options)
      check
      add (.array (← AttemptT.ofBlock (m := Id) (ArraySchema.defineWith o block))))
    (c : Call) :
    Performs (on c) ((c.build r).toOption.map fun p => do check; add p) := by
  cases c with
  | leaf kind options =>
    rw [hleaf, build, toOption_bind, Option.map_bind]
    exact performs_given fun o => performs_checked check add _
  | hash options block =>
    rw [hhash, build, toOption_bind, Option.map_bind]
    refine performs_given fun o => ?_
    rw [Function.comp_apply, toOption_map, Option.map_map]
    exact performs_checked check (fun s => add (.hash s)) _
  | array options block =>
    rw [harray, build, toOption_bind, Option.map_bind]
    refine performs_given fun o => ?_
    rw [Function.comp_apply, toOption_map, Option.map_map]
    exact performs_checked check (fun s => add (.array s)) _

theorem performs_onHash (name : String) (c : Call) :
    Performs (c.onHash r name)
      ((c.build r).toOption.map fun p => HashBuilder.insert (m := Id) name p) :=
  performs_call r (HashBuilder.checkName name) (HashBuilder.push name) (fun _ _ => rfl)
    (fun _ _ => rfl) (fun _ _ => rfl) c

theorem performs_onArray (c : Call) :
    Performs (c.onArray r) ((c.build r).toOption.map fun p => ArrayBuilder.set (m := Id) p) :=
  performs_call r (ArrayBuilder.checkMode ArrayBuilder.ensureSingleAvailable)
    (fun p => ArrayBuilder.setMode (.single p)) (fun _ _ => rfl) (fun _ _ => rfl) (fun _ _ => rfl) c

theorem performs_onTuple (c : Call) :
    Performs (c.onTuple r) ((c.build r).toOption.map fun p => TupleBuilder.push (m := Id) p) :=
  performs_call r (pure ()) TupleBuilder.push (fun _ _ => rfl) (fun _ _ => rfl) (fun _ _ => rfl) c

end Call

namespace ArrayBuilder
variable {block : TupleBuilder.Step Id} {step : Option (TupleBuilder.Step Id)}

theorem performs_fillBy (h : Performs block step)
    (filled : List Property → ArrayMode Property → Except SchemaError (ArrayMode Property)) :
    Performs (fillBy filled block) (step.map (fillBy filled)) := by
  intro a
  cases step with
  | none => simp [fillBy_after?, h []]
  | some x => simp [fillBy_after?, h []]

end ArrayBuilder

namespace Definition
variable {r : Registry} {path key : String} {fields : List (String × Json)}

/-- A definition and the call it stands for build the same property, or none. -/
def Agrees (r : Registry) (d : Json) : Prop :=
  ∀ path, ((call r d).build r).toOption = (property r path d).toOption

theorem performs_addProperties {entries : List (String × Json)}
    (h : ∀ entry ∈ entries, Agrees r entry.2) (path : String) :
    Performs (addProperties r entries) ((properties r path entries).toOption.map fun ps =>
      ps.forM fun entry => HashBuilder.insert entry.1 entry.2) := by
  induction entries with
  | nil => exact performs_done
  | cons entry rest ih =>
    obtain ⟨name, d⟩ := entry
    have hd := h (name, d) List.mem_cons_self (path ++ ".properties." ++ name)
    have first := (call r d).performs_onHash r name
    rw [hd] at first
    rw [addProperties, properties]
    exact first.cons (fun p ps => rfl) (ih fun entry he => h entry (List.mem_cons_of_mem _ he))

theorem performs_addPositions {ds : List Json} (h : ∀ d ∈ ds, Agrees r d) (path : String)
    (index : Nat) :
    Performs (addPositions r ds)
      ((elements r path index ds).toOption.map fun ps => ps.forM TupleBuilder.push) := by
  induction ds generalizing index with
  | nil => exact performs_done
  | cons d rest ih =>
    have hd := h d List.mem_cons_self (path ++ "[" ++ toString index ++ "]")
    have first := (call r d).performs_onTuple r
    rw [hd] at first
    rw [addPositions, elements]
    exact first.cons (fun p ps => rfl)
      (ih (fun d hd => h d (List.mem_cons_of_mem _ hd)) (index + 1))

variable {n : Node} {built : Parts} {kind : String}

/-- The blocks of a program perform what the parts of a definition are finished for. -/
structure Parts.Performed (built : Parts) (properties : HashBuilder.Step Id)
    (elements : ArrayBuilder.Step Id) : Prop where
  properties : Performs properties (built.children.toOption.map fun ps =>
    ps.forM fun entry => HashBuilder.insert entry.1 entry.2)
  elements : Performs elements (built.element.toOption.bind fun element =>
    built.items.toOption.bind fun items => built.optionalItems.toOption.map fun optional =>
      arraySteps element items optional)

theorem performs_propertiesBlock (h : Shaped kind fields)
    (inside : ∀ c, Child c (.object fields) → Agrees r c) (path : String) :
    Performs (propertiesBlock r fields) ((children r path fields).toOption.map fun ps =>
      ps.forM fun entry => HashBuilder.insert entry.1 entry.2) := by
  rw [propertiesBlock_eq, children_eq]
  cases hl : Assoc.lookup "properties" fields with
  | none => exact performs_done
  | some v =>
    rcases (h.properties v hl).2 with rfl | ⟨ps, rfl⟩
    · exact performs_done
    · exact performs_addProperties (fun entry he => inside entry.2 (.property hl he)) path

theorem performs_elementBlock (inside : ∀ c, Child c (.object fields) → Agrees r c)
    (path : String) :
    Performs (elementBlock r fields)
      ((element r path fields).toOption.map fun p => p.forM ArrayBuilder.set) := by
  have built : ∀ c, c ≠ .null → Assoc.lookup "element" fields = some c →
      Performs ((call r c).onArray r) (((property r (path ++ ".element") c).map some).toOption.map
        fun p => p.forM ArrayBuilder.set) := by
    intro c hc hl
    have h := (call r c).performs_onArray r
    rw [inside c (.element hl hc) (path ++ ".element")] at h
    rw [toOption_map, Option.map_map]
    exact h
  rw [elementBlock_eq, element_eq]
  cases hl : Assoc.lookup "element" fields with
  | none => exact performs_done
  | some c =>
    cases c with
    | null => exact performs_done
    | _ => exact built _ (by simp) hl

theorem performs_tupleBlock (h : Shaped kind fields)
    (inside : ∀ c, Child c (.object fields) → Agrees r c)
    (hkey : key ∈ ["items", "optional_items"]) (path : String)
    (filled : List Property → ArrayMode Property → Except SchemaError (ArrayMode Property)) :
    Performs ((tupleBlock r key fields).forM (ArrayBuilder.fillBy filled))
      ((positions r path key fields).toOption.map fun ps =>
        ps.forM fun ps => ArrayBuilder.fillBy filled (ps.forM TupleBuilder.push)) := by
  rw [tupleBlock_eq, positions_eq]
  cases hl : Assoc.lookup key fields with
  | none => exact performs_done
  | some v =>
    rcases (h.positions key hkey v hl).2 with rfl | ⟨items, rfl⟩
    · exact performs_done
    · have hitems := performs_addPositions (fun c hc => inside c (.position hkey hl hc))
        (path ++ "." ++ key) 0
      have hfill := ArrayBuilder.performs_fillBy hitems filled
      rw [Option.map_map] at hfill
      simp only [toOption_map, Option.map_map]
      exact hfill

theorem performs_arraySteps {b₁ b₂ b₃ : ArrayBuilder.Step Id}
    {element : Except SchemaError (Option Property)}
    {items optional : Except SchemaError (Option (List Property))}
    (he : Performs b₁ (element.toOption.map fun p => p.forM ArrayBuilder.set))
    (hi : Performs b₂ (items.toOption.map fun ps =>
      ps.forM fun ps => ArrayBuilder.items (ps.forM TupleBuilder.push)))
    (ho : Performs b₃ (optional.toOption.map fun ps =>
      ps.forM fun ps => ArrayBuilder.optionalItems (ps.forM TupleBuilder.push))) :
    Performs (do b₁; b₂; b₃) (element.toOption.bind fun element =>
      items.toOption.bind fun items => optional.toOption.map fun optional =>
        arraySteps element items optional) := by
  have all := he.andThen (hi.andThen ho)
  cases element with
  | error e => exact all
  | ok p =>
    cases items with
    | error e => exact all
    | ok ps =>
      cases optional with
      | error e => exact all
      | ok qs => exact all

theorem performed_of_shaped (h : Shaped kind fields)
    (inside : ∀ c, Child c (.object fields) → Agrees r c) (path : String) :
    (parts r path (.object fields)).Performed (propertiesBlock r fields) (do
      elementBlock r fields
      (tupleBlock r "items" fields).forM ArrayBuilder.items
      (tupleBlock r "optional_items" fields).forM ArrayBuilder.optionalItems) where
  properties := performs_propertiesBlock h inside path
  elements := performs_arraySteps (performs_elementBlock inside path)
    (performs_tupleBlock h inside (by simp) path ArrayBuilder.fillRequired)
    (performs_tupleBlock h inside (by simp) path ArrayBuilder.fillOptional)

variable {children : HashBuilder.Step Id} {elements : ArrayBuilder.Step Id} {d : Json}

theorem ofJson_optionFields (n : Node) :
    (Options.ofJson (.object n.optionFields)).toOption = n.options.toOption :=
  (located_toOption n.path _).symm

theorem hash_agrees (hb : built.Performed children elements)
    (hn : n.reject ["element", "items", "optional_items"] = .ok ()) :
    (do Id.run (HashSchema.defineWith (← Options.ofJson (.object n.optionFields)) children) :
      Except SchemaError (HashSchema Property)).toOption = (hash n built).toOption := by
  have hrun : ∀ start, children.after? start = _ := hb.properties
  rw [hash_toOption, hn, toOption_bind, ofJson_optionFields]
  simp only [HashSchema.defineWith_toOption, hrun, hashOf, toOption_ok, Option.bind_some]
  cases built.children with
  | error e => simp
  | ok ps => rfl

theorem array_agrees (hb : built.Performed children elements)
    (hn : n.reject ["properties"] = .ok ()) :
    (do Id.run (ArraySchema.defineWith (← Options.ofJson (.object n.optionFields)) elements) :
      Except SchemaError (ArraySchema Property)).toOption = (array n built).toOption := by
  have hrun : ∀ start, elements.after? start = _ := hb.elements
  rw [array_toOption, hn, toOption_bind, ofJson_optionFields]
  simp only [ArraySchema.defineWith_toOption, hrun, arrayOf, toOption_ok, Option.bind_some]
  cases built.element with
  | error e => simp
  | ok p =>
    cases built.items with
    | error e => simp
    | ok ps =>
      cases built.optionalItems with
      | error e => simp
      | ok qs => rfl

/-- A kind builds by any of its names what it builds by its own. -/
theorem buildProperty_toOption {name : String} {options : Options}
    (hkind : r.resolve name = .ok kind) (hsettled : r.resolve kind = .ok kind) :
    (r.buildProperty name options).toOption = (r.buildProperty kind options).toOption := by
  simp only [Registry.buildProperty, hkind, hsettled, ok_bind]
  cases Assoc.lookup kind r.kinds <;> rfl

theorem leaf_agrees (hkind : r.resolve n.kind = .ok kind) (hsettled : r.resolve kind = .ok kind)
    (hn : n.reject ["properties", "element", "items", "optional_items"] = .ok ()) :
    (do r.buildProperty n.kind (← Options.ofJson (.object n.optionFields)) :
      Except SchemaError Property).toOption = (leaf r kind n).toOption := by
  rw [leaf_toOption, hn, toOption_bind, ofJson_optionFields]
  exact Option.bind_congr fun options _ => buildProperty_toOption hkind hsettled

theorem resolve_eq_ok (hkind : r.resolve n.kind = .ok kind) : n.resolve r = .ok kind := by
  rw [Node.resolve, hkind]
  rfl

/-- The call for a node builds what its definition describes. -/
theorem build_ofNode {path : String} (hread : Node.ofJson path d = .ok n)
    (hkind : r.resolve n.kind = .ok kind) (hsettled : r.resolve kind = .ok kind)
    (shaped : Shaped kind n.fields) (hb : built.Performed children elements) :
    ((Call.ofNode r n.kind n.fields children elements).build r).toOption =
      (assemble r path d built).toOption := by
  simp only [Call.ofNode, assemble, hread, hkind, ok_bind, resolve_eq_ok hkind]
  by_cases hhash : kind = hashKind
  · have h := hash_agrees hb (shaped.accepts_hash hhash)
    simp only [if_pos hhash, Call.build, toOption_bind_map, toOption_bind_pure]
    exact congrArg (Option.map Property.hash) h
  · by_cases harray : kind = arrayKind
    · have h := array_agrees hb (shaped.accepts_array hhash)
      simp only [if_neg hhash, if_pos harray, Call.build, toOption_bind_map, toOption_bind_pure]
      exact congrArg (Option.map Property.array) h
    · simp only [if_neg hhash, if_neg harray]
      exact leaf_agrees hkind hsettled (shaped.accepts_leaf hhash harray)

/-- The same for the schema of a whole document; neither side makes one of a leaf. -/
theorem schema_ofNode (hread : Node.ofJson root d = .ok n)
    (hkind : r.resolve n.kind = .ok kind) (shaped : Shaped kind n.fields)
    (hb : (parts r root d).Performed children elements) :
    (Call.ofNode r n.kind n.fields children elements).schema.toOption =
      (schema r d).toOption := by
  simp only [Call.ofNode, schema, hread, hkind, ok_bind, resolve_eq_ok hkind]
  by_cases hhash : kind = hashKind
  · have h := hash_agrees hb (shaped.accepts_hash hhash)
    simp only [if_pos hhash, Call.schema, toOption_bind_map, toOption_bind_pure]
    exact congrArg (Option.map Schema.hash) h
  · by_cases harray : kind = arrayKind
    · have h := array_agrees hb (shaped.accepts_array hhash)
      simp only [if_neg hhash, if_pos harray, Call.schema, toOption_bind_map, toOption_bind_pure]
      exact congrArg (Option.map Schema.array) h
    · simp only [if_neg hhash, if_neg harray]
      rfl

theorem performed_none : Parts.none.Performed (pure ()) (pure ()) where
  properties := performs_done
  elements := performs_done

theorem ofJson_object {written : String}
    (htype : Assoc.lookup "type" fields = some (.string written)) (path : String) :
    Node.ofJson path (.object fields) = .ok ⟨path, written, fields⟩ := by
  simp [Node.ofJson, htype]

/-- Every name of a kind stands for a name that stands for itself. -/
def Settled (r : Registry) : Prop :=
  ∀ name kind, r.resolve name = .ok kind → r.resolve kind = .ok kind

theorem WellShaped.agrees (hr : Settled r) (h : WellShaped r d) : Agrees r d := by
  induction h with
  | @name written kind hkind =>
    intro path
    rw [call, property_eq]
    exact build_ofNode (n := ⟨path, written, []⟩) rfl hkind (hr _ _ hkind) .nil
      performed_none
  | @node fields written kind htype hkind shaped _ ih =>
    intro path
    rw [call, property_eq, kindOf_eq htype]
    exact build_ofNode (n := ⟨path, written, fields⟩) (ofJson_object htype path) hkind
      (hr _ _ hkind) shaped (performed_of_shaped shaped ih path)

theorem program_toOption (hr : Settled r) (h : WellShaped r d) :
    (program r d).toOption = (schema r d).toOption := by
  cases h with
  | @name kind resolved hkind =>
    rw [program, call]
    exact schema_ofNode (n := ⟨root, kind, []⟩) rfl hkind .nil performed_none
  | @node fields kind resolved htype hkind shaped inside =>
    rw [program, call, kindOf_eq htype]
    exact schema_ofNode (n := ⟨root, kind, fields⟩) (ofJson_object htype root) hkind shaped
      (performed_of_shaped shaped (fun c hc => (inside c hc).agrees hr) root)

theorem resolve_builtin_kind {kind : String}
    (h : kind ∈ Registry.builtin.kinds.map (·.1)) : Registry.builtin.resolve kind = .ok kind := by
  have names : Registry.builtin.kinds.map (·.1) =
      ["string", "integer", "float", "number", "boolean", "nil", "array", "nested_hash"] := rfl
  rw [names] at h
  simp only [List.mem_cons, List.not_mem_nil, or_false] at h
  rcases h with rfl | rfl | rfl | rfl | rfl | rfl | rfl | rfl <;> rfl

theorem settled_builtin : Settled .builtin := by
  intro name kind h
  simp only [Registry.resolve] at h
  split at h
  · rename_i hc
    rw [← Except.ok.inj h]
    obtain ⟨factory, hf⟩ := Option.isSome_iff_exists.mp hc
    exact resolve_builtin_kind (List.mem_map.mpr ⟨_, Assoc.mem_of_lookup hf, rfl⟩)
  · split at h
    · rename_i resolved hl
      obtain rfl : resolved = kind := Except.ok.inj h
      have hmem := Assoc.mem_of_lookup hl
      simp only [Registry.builtin, List.mem_cons, List.not_mem_nil, or_false, Prod.mk.injEq] at hmem
      rcases hmem with ⟨_, rfl⟩ | ⟨_, rfl⟩ <;> rfl
    · cases h

/-- Definitions and programs are two ways to the same schemas: a definition whose structural keys
are where they belong is accepted exactly when its program runs through, and the schemas that come
out are one. -/
theorem program_builds_iff_accepted {d : Json} (h : WellShaped .builtin d) :
    ((∃ s, schema .builtin d = .ok s) ↔ ∃ t, program .builtin d = .ok t) ∧
      ∀ s t, schema .builtin d = .ok s → program .builtin d = .ok t →
        s = t ∧ ∀ document, s.validate document = t.validate document := by
  have same := program_toOption settled_builtin h
  constructor
  · constructor
    · rintro ⟨s, hs⟩
      rw [hs] at same
      exact ⟨s, toOption_eq_some_iff.mp same⟩
    · rintro ⟨t, ht⟩
      rw [ht] at same
      exact ⟨t, toOption_eq_some_iff.mp same.symm⟩
  · intro s t hs ht
    rw [hs, ht] at same
    obtain rfl : t = s := Option.some.inj same
    exact ⟨rfl, fun document => rfl⟩

/-- Pairs whose second position may be missing. -/
def pair : Json := .object [("type", .string "array"), ("items", .array [.string "integer"]),
  ("optional_items", .array [.string "nil"])]

theorem wellShaped_pair : WellShaped .builtin pair := by
  have array : Registry.builtin.resolve "array" = .ok arrayKind := rfl
  have integer : Registry.builtin.resolve "integer" = .ok "integer" := rfl
  have nil : Registry.builtin.resolve "nil" = .ok "nil" := rfl
  refine .node rfl array ⟨?_, ?_, ?_⟩ ?_
  · intro v h
    simp [Assoc.lookup_cons, Assoc.lookup_nil] at h
  · intro v h
    simp [Assoc.lookup_cons, Assoc.lookup_nil] at h
  · intro key hkey v h
    simp only [List.mem_cons, List.not_mem_nil, or_false] at hkey
    rcases hkey with rfl | rfl <;> exact ⟨rfl, .inr ⟨_, (Option.some.inj h).symm⟩⟩
  · intro c hc
    cases hc with
    | property h _ => simp [Assoc.lookup_cons, Assoc.lookup_nil] at h
    | element h _ => simp [Assoc.lookup_cons, Assoc.lookup_nil] at h
    | position hkey h hc =>
      simp only [List.mem_cons, List.not_mem_nil, or_false] at hkey
      rcases hkey with rfl | rfl
      · cases h
        obtain rfl := List.mem_singleton.mp hc
        exact .name integer
      · cases h
        obtain rfl := List.mem_singleton.mp hc
        exact .name nil

set_option maxRecDepth 4000 in
/-- A hash, by its alias, with such a pair inside. -/
theorem nested_pair_agrees :
    let d : Json := .object [("type", .string "object"), ("properties", .object [("pair", pair)])]
    let leaf (kind : String) (test : TypeTest) (allowNil : Bool) : Property :=
      .leaf ⟨kind, test, true, allowNil, []⟩
    let s : Schema := .hash ⟨[("pair", .array ⟨.tuple [leaf "integer" .integer false]
      [leaf "nil" .null true], false, none, none, true, false⟩)], true, true, false⟩
    WellShaped .builtin d ∧ schema .builtin d = .ok s ∧ program .builtin d = .ok s := by
  intro d leaf s
  have hash : Registry.builtin.resolve "object" = .ok hashKind := rfl
  have shaped : WellShaped .builtin d := by
    refine .node rfl hash ⟨?_, ?_, ?_⟩ ?_
    · intro v h
      exact ⟨rfl, .inr ⟨_, (Option.some.inj h).symm⟩⟩
    · intro v h
      simp [Assoc.lookup_cons, Assoc.lookup_nil] at h
    · intro key hkey v h
      simp only [List.mem_cons, List.not_mem_nil, or_false] at hkey
      rcases hkey with rfl | rfl <;> simp [Assoc.lookup_cons, Assoc.lookup_nil] at h
    · intro c hc
      cases hc with
      | property h hc =>
        cases h
        cases List.mem_singleton.mp hc
        exact wellShaped_pair
      | element h _ => simp [Assoc.lookup_cons, Assoc.lookup_nil] at h
      | position hkey h _ =>
        simp only [List.mem_cons, List.not_mem_nil, or_false] at hkey
        rcases hkey with rfl | rfl <;> simp [Assoc.lookup_cons, Assoc.lookup_nil] at h
  have accepted : schema .builtin d = .ok s := rfl
  obtain ⟨iff, same⟩ := program_builds_iff_accepted shaped
  obtain ⟨t, ht⟩ := iff.mp ⟨s, accepted⟩
  obtain ⟨rfl, -⟩ := same s t accepted ht
  exact ⟨shaped, accepted, ht⟩

end Definition

end Conform
