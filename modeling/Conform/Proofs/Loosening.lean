import Conform.Proofs.Conformance

/-!
Loosened schemas. A schema that asks for less than another at every node accepts whatever the other
accepts.
-/

namespace Conform

/-- What an array asks for apart from its elements is no more than what another one asks for. A
bound may be moved outwards or dropped, but not added. -/
structure ArraySchema.Eases {P : Type} (b a : ArraySchema P) : Prop where
  allowNil : a.allowNil = true → b.allowNil = true
  required : b.required = true → a.required = true
  unique : b.unique = true → a.unique = true
  minSize : ∀ least, b.minSize = some least → ∃ old, a.minSize = some old ∧ least ≤ old
  maxSize : ∀ most, b.maxSize = some most → ∃ old, a.maxSize = some old ∧ old ≤ most

/-- The first property asks for no more than the second at any node. -/
inductive Loosens : Property → Property → Prop where
  | leaf {k l : Leaf} (kind : k.kind = l.kind) (test : k.test = l.test)
    (validators : k.validators.Sublist l.validators)
    (allowNil : l.allowNil = true → k.allowNil = true)
    (required : k.required = true → l.required = true) :
    Loosens (.leaf k) (.leaf l)
  | hash {g h : HashSchema Property} (allowNil : h.allowNil = true → g.allowNil = true)
    (required : g.required = true → h.required = true)
    (strict : g.strict = true → h.strict = true)
    (names : ∀ name, name ∈ g.properties.map (·.1) ↔ name ∈ h.properties.map (·.1))
    (properties : ∀ name q p, (name, q) ∈ g.properties → (name, p) ∈ h.properties →
      Loosens q p) :
    Loosens (.hash g) (.hash h)
  | unset {b a : ArraySchema Property} (eases : b.Eases a) (mode : b.mode = .unset)
    (old : a.mode = .unset) :
    Loosens (.array b) (.array a)
  | single {b a : ArraySchema Property} {q p : Property} (eases : b.Eases a)
    (mode : b.mode = .single q) (old : a.mode = .single p) (element : Loosens q p) :
    Loosens (.array b) (.array a)
  | tuple {b a : ArraySchema Property} {required optional required' optional' : List Property}
    (eases : b.Eases a) (mode : b.mode = .tuple required' optional')
    (old : a.mode = .tuple required optional) (least : required'.length ≤ required.length)
    (most : required.length + optional.length ≤ required'.length + optional'.length)
    (each : ∀ (i : Nat) q p, (required' ++ optional')[i]? = some q →
      (required ++ optional)[i]? = some p → Loosens q p) :
    Loosens (.array b) (.array a)

variable {q p : Property} {v : Json}

/-- What was allowed to be absent still is. -/
theorem Loosens.isRequired_eq_false (h : Loosens q p) (hp : p.isRequired = false) :
    q.isRequired = false := by
  rw [← Bool.not_eq_true] at hp ⊢
  intro hq
  apply hp
  cases h with
  | leaf _ _ _ _ required => exact required hq
  | hash _ required _ _ _ => exact required hq
  | unset eases _ _ => exact eases.required hq
  | single eases _ _ _ => exact eases.required hq
  | tuple eases _ _ _ _ _ => exact eases.required hq

namespace ArraySchema.Eases
variable {P : Type} {b a : ArraySchema P}

theorem within (h : b.Eases a) {length : Nat} (hw : Within a.minSize a.maxSize length) :
    Within b.minSize b.maxSize length := by
  constructor
  · intro least hleast
    obtain ⟨old, hold, hle⟩ := h.minSize least hleast
    have := hw.1 old hold
    omega
  · intro most hmost
    obtain ⟨old, hold, hle⟩ := h.maxSize most hmost
    have := hw.2 old hold
    omega

theorem distinct (h : b.Eases a) {items : List Json} (hd : a.unique = true → Distinct items)
    (hb : b.unique = true) : Distinct items := hd (h.unique hb)

end ArraySchema.Eases

/-- The name of a property of a loosened hash is one that the hash had before. -/
theorem exists_property_of_names {ps qs : List (String × Property)} {name : String}
    (names : ∀ name, name ∈ qs.map (·.1) ↔ name ∈ ps.map (·.1)) (hq : (name, q) ∈ qs) :
    ∃ p, (name, p) ∈ ps := by
  have hname : name ∈ ps.map (·.1) := (names name).mp (List.mem_map_of_mem hq)
  obtain ⟨⟨_, p⟩, hp, rfl⟩ := List.mem_map.mp hname
  exact ⟨p, hp⟩

theorem Loosens.conforms_leaf {k l : Leaf} (h : Loosens (.leaf k) (.leaf l))
    (hc : Conforms (.leaf l) v) : Conforms (.leaf k) v := by
  cases h with
  | leaf _ test validators allowNil _ =>
    cases hc with
    | leafNull hnull =>
      apply Conforms.leafNull
      rw [test]
      exact hnull.imp_left allowNil
    | leaf present type accepted =>
      refine .leaf present (by rw [test]; exact type) ?_
      intro w hw
      exact accepted w (validators.subset hw)

/-- Induction on the loosening: each rule of conformance for the old property has its counterpart
for the new one. -/
theorem Loosens.conforms (h : Loosens q p) (hc : Conforms p v) : Conforms q v := by
  induction h generalizing v with
  | leaf kind test validators allowNil required =>
    exact conforms_leaf (.leaf kind test validators allowNil required) hc
  | hash allowNil required strict names properties ih =>
    cases hc with
    | hashNull allowed => exact .hashNull (allowNil allowed)
    | hash declared present absent =>
      refine .hash ?_ ?_ ?_
      · intro hstrict field hfield
        exact (names field.1).mpr (declared (strict hstrict) field hfield)
      · intro name q v hq hl
        obtain ⟨p, hp⟩ := exists_property_of_names names hq
        exact ih name q p hq hp (present name p v hp hl)
      · intro name q hq hl
        obtain ⟨p, hp⟩ := exists_property_of_names names hq
        exact (properties name q p hq hp).isRequired_eq_false (absent name p hp hl)
  | unset eases mode old =>
    cases hc with
    | arrayNull allowed => exact .arrayNull (eases.allowNil allowed)
    | arrayUnset _ distinct size =>
      exact .arrayUnset mode (eases.distinct distinct) (eases.within size)
    | arraySingle hmode => cases old.symm.trans hmode
    | arrayTuple hmode => cases old.symm.trans hmode
  | single eases mode old _ ih =>
    cases hc with
    | arrayNull allowed => exact .arrayNull (eases.allowNil allowed)
    | arrayUnset hmode => cases old.symm.trans hmode
    | arraySingle hmode distinct size each =>
      cases old.symm.trans hmode
      refine .arraySingle mode (eases.distinct distinct) (eases.within size) ?_
      intro v hv
      exact ih (each v hv)
    | arrayTuple hmode => cases old.symm.trans hmode
  | @tuple b a required optional _ _ eases mode old fewer more _ ih =>
    cases hc with
    | arrayNull allowed => exact .arrayNull (eases.allowNil allowed)
    | arrayUnset hmode => cases old.symm.trans hmode
    | arraySingle hmode => cases old.symm.trans hmode
    | @arrayTuple _ _ _ items hmode distinct least most each =>
      cases old.symm.trans hmode
      refine .arrayTuple mode (eases.distinct distinct) (by omega) (by omega) ?_
      intro i q v hq hv
      -- A position with an element is one of the old positions: there are no more elements.
      have hlt : i < items.length := (List.getElem?_eq_some_iff.mp hv).1
      have hold : i < (required ++ optional).length := by
        rw [List.length_append]
        omega
      have hp := List.getElem?_eq_getElem hold
      exact ih i q _ hq hp (each i _ v hp hv)

/-- Validation of a document is a check against the schema as a property. -/
theorem Schema.validate_eq_ok_nil_iff_clean {s : Schema} {document : Json} :
    s.validate document = .ok [] ↔ Property.Clean (s.toProperty.check document) := by
  cases s with
  | hash h => exact Property.clean_map_ofMap_iff.symm
  | array a => exact Property.clean_map_ofMap_iff.symm

/-- A document without errors has none after the schema is loosened, nor does validation fail on
it then. -/
theorem loosened_schema_accepts {t s : Schema} (h : Loosens t.toProperty s.toProperty)
    {document : Json} (hs : s.validate document = .ok []) : t.validate document = .ok [] := by
  rw [Schema.validate_eq_ok_nil_iff_clean, Property.clean_check_iff] at hs ⊢
  exact h.conforms hs

/-- A short name and two integers that differ; then any name or none, and up to three integers. -/
theorem relaxed_profile_accepts :
    let integer : Property := .leaf ⟨"integer", .integer, true, false, []⟩
    let short : Property :=
      .leaf ⟨"string", .string, true, false, [.allowEmpty false, .comparison .lessThan (.ofNat 9)]⟩
    let anyName : Property := .leaf ⟨"string", .string, false, false, [.allowEmpty false]⟩
    let two : Property := .array ⟨.tuple [integer, integer] [], true, none, none, true, false⟩
    let three : Property :=
      .array ⟨.tuple [integer] [integer, integer], false, none, none, true, true⟩
    let strict : Schema := .hash ⟨[("name", short), ("pair", two)], true, true, false⟩
    let relaxed : Schema := .hash ⟨[("pair", three), ("name", anyName)], false, true, false⟩
    let document : Json := .object [("name", .string "Ada"),
      ("pair", .array [.number (.ofNat 1), .number (.ofNat 2)])]
    Loosens relaxed.toProperty strict.toProperty ∧ strict.validate document = .ok [] ∧
      relaxed.validate document = .ok [] := by
  intro integer short anyName two three strict relaxed document
  have same : Loosens integer integer := .leaf rfl rfl (.refl _) id id
  have name : Loosens anyName short := .leaf rfl rfl (by simp) id (by simp)
  have pair : Loosens three two := by
    refine .tuple ⟨by simp, id, by simp, by simp, by simp⟩ rfl rfl (by simp) (by simp) ?_
    intro i q p hq hp
    obtain rfl : q = integer := by simpa using List.mem_of_getElem? hq
    obtain rfl : p = integer := by simpa using List.mem_of_getElem? hp
    exact same
  have looser : Loosens relaxed.toProperty strict.toProperty := by
    refine .hash id id (by simp) (by simp [or_comm]) ?_
    intro key q p hq hp
    simp only [List.mem_cons, Prod.mk.injEq, List.not_mem_nil, or_false] at hq hp
    rcases hq with ⟨rfl, rfl⟩ | ⟨rfl, rfl⟩ <;> rcases hp with ⟨hkey, rfl⟩ | ⟨hkey, rfl⟩
    · simp at hkey
    · exact pair
    · exact name
    · simp at hkey
  have accepted : strict.validate document = .ok [] := rfl
  exact ⟨looser, accepted, loosened_schema_accepts looser accepted⟩

end Conform
