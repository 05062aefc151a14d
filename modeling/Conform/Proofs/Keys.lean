import Conform.Proofs.Occupants
import Conform.Proofs.Registrations

/-!
Keys of definitions. Every key of an accepted definition means something where it stands: it is
structural, an option of the container, or makes a validator of the leaf.
-/

namespace Conform
open Outcome
open Options (stored)
open Text (normalizeKey)

theorem Registry.hasValidator_of_build {r : Registry} {name : String} {config : Json}
    {w : Validator} (h : r.buildValidator name config = .ok w) : r.hasValidator name = true := by
  unfold buildValidator ValidatorTable.build at h
  split at h
  · rename_i hl
    rw [hasValidator, Assoc.contains, hl]
    rfl
  · cases h

namespace Leaf
variable {kind : String} {test : TypeTest} {o : Options} {l : Leaf} {r : Registry}

/-- One validator comes of each option. -/
theorem forall₂_validatorsOf {entries : List (String × Json)}
    (h : ∀ entry ∈ entries, ∃ w, r.buildValidator entry.1 entry.2 = .ok w) :
    List.Forall₂ (fun entry w => r.buildValidator entry.1 entry.2 = .ok w) entries
      (validatorsOf r.validators entries) := by
  induction entries with
  | nil => exact .nil
  | cons entry entries ih =>
    obtain ⟨⟨w, hw⟩, hrest⟩ := List.forall_mem_cons.mp h
    obtain ⟨name, config⟩ := entry
    rw [validatorsOf_cons hw]
    exact .cons hw (ih hrest)

/-- What comes of the options of a leaf: no option but the flags is left without a validator, and
the validators stand in the order of the options. -/
structure FromOptions (r : Registry) (o : Options) (l : Leaf) : Prop where
  known : ∀ name ∈ o.names, name ∈ flagNames ∨ r.hasValidator name = true
  validators : List.Forall₂ (fun entry w => r.buildValidator entry.1 entry.2 = .ok w)
    (o.entries.filter fun entry => r.hasValidator entry.1) l.validators
  distinct : (l.validators.map (·.name)).Nodup

theorem fromOptions_of_ofOptions (flags : ∀ name ∈ flagNames, r.hasValidator name = false)
    (h : ofOptions kind test o r.validators = .ok l) : FromOptions r o l := by
  have hs := toOption_eq_some_iff.mpr h
  rw [ofOptions_toOption, Option.bind_eq_some_iff] at hs
  obtain ⟨⟨start, rest⟩, htaken, hadded⟩ := hs
  obtain ⟨-, hnone, hrest⟩ := taking_eq_some htaken
  obtain ⟨hall, hfresh, rfl⟩ := addOptions_eq_ok_iff.mp (toOption_eq_some_iff.mp hadded)
  rw [hnone] at hfresh ⊢
  have validating : ∀ entry ∈ rest.entries, r.hasValidator entry.1 = true := by
    intro entry hentry
    obtain ⟨w, hw⟩ := hall entry hentry
    exact Registry.hasValidator_of_build hw
  have kept : rest.entries = o.entries.filter fun entry => r.hasValidator entry.1 := by
    rw [← List.filter_eq_self.mpr validating, hrest,
      Assoc.filter_erase "allow_nil" fun _ => flags "allow_nil" (by decide),
      Assoc.filter_erase "required" fun _ => flags "required" (by decide)]
  refine ⟨?_, ?_, ?_⟩
  · intro name hname
    by_cases hflag : name ∈ flagNames
    · exact .inl hflag
    · obtain ⟨config, hentry⟩ := Assoc.mem_keys_iff.mp hname
      simp only [flagNames, List.mem_cons, List.not_mem_nil, or_false, not_or] at hflag
      refine .inr (validating (name, config) ?_)
      rw [hrest]
      exact Assoc.mem_erase_of_ne (Assoc.mem_erase_of_ne hentry hflag.1) hflag.2
  · rw [← kept]
    exact forall₂_validatorsOf hall
  · exact hfresh.distinct

end Leaf

namespace Registry

/-- A kind other than the containers is found again under its own name, and makes leaves. -/
theorem leaf_of_buildProperty {name kind : String} {o : Options} {p : Property}
    (known : builtin.resolve name = .ok kind) (noHash : kind ≠ hashKind)
    (noArray : kind ≠ arrayKind) (h : builtin.buildProperty kind o = .ok p) :
    ∃ l, p = .leaf l ∧ Leaf.FromOptions builtin o l := by
  have settled : ∀ entry ∈ leafKinds, normalizeKey entry.1 = entry.1 := by decide
  have flags : ∀ flag ∈ Leaf.flagNames, builtin.hasValidator flag = false := by decide
  obtain ⟨factory, hf⟩ := closed_builtin.exists_factory known
  cases factory_of_lookup hf with
  | leaf hkind =>
    have hkey : builtin.target? (normalizeKey kind) = some kind := by
      rw [settled _ hkind]
      exact if_pos (Option.isSome_of_mem hf)
    have again : builtin.resolve kind = .ok kind := resolve_eq_ok_iff.mpr hkey
    rw [buildProperty, again, ok_bind, hf] at h
    obtain ⟨l, hl, heq⟩ := bind_eq_ok_iff.mp h
    cases heq
    obtain ⟨known, validators, distinct⟩ := Leaf.fromOptions_of_ofOptions flags hl
    refine ⟨_, rfl, known, ?_, ?_⟩ <;> split <;> assumption
  | array => exact (noArray rfl).elim
  | hash => exact (noHash rfl).elim

end Registry

namespace Definition

variable {r : Registry} {path : String} {d : Json} {n : Node} {o : Options} {keys : List String}
  {fields : List (String × Json)} {p : Property} {s : Schema} {position : Position}

theorem entries_of_options (ho : n.options = .ok o) : o.entries = stored n.optionFields := by
  obtain ⟨-, -, rfl⟩ := Options.insertAll_eq_ok_iff.mp (mapError_eq_ok_iff.mp ho)
  rfl

/-- A key that is not refused is structural or names an option. -/
theorem key_cases (ho : n.options = .ok o) (hreject : n.reject keys = .ok ()) {key : String}
    (hkey : key ∈ n.fields.map (·.1)) :
    (key ∈ structuralKeys ∧ key ∉ keys) ∨ normalizeKey key ∈ o.names := by
  by_cases hstructural : key ∈ structuralKeys
  · refine .inl ⟨hstructural, fun hrefused => ?_⟩
    exact Assoc.lookup_eq_none_iff.mp (Node.reject_eq_ok_iff.mp hreject key hrefused) hkey
  · obtain ⟨value, hfield⟩ := Assoc.mem_keys_iff.mp hkey
    have hoption : (key, value) ∈ n.optionFields :=
      List.mem_filter.mpr ⟨hfield, by simpa using hstructural⟩
    refine .inr (Assoc.mem_keys_iff.mpr ⟨value, ?_⟩)
    rw [entries_of_options ho]
    exact List.mem_map.mpr ⟨_, hoption, rfl⟩

/-- The fields of a definition mean something for what it describes, each of them. -/
inductive Understood (fields : List (String × Json)) : Property → Prop where
  | hash {h : HashSchema Property}
    (known : ∀ key ∈ fields.map (·.1), key ∈ ["type", "properties"] ∨
      normalizeKey key ∈ HashSchema.optionNames) : Understood fields (.hash h)
  | array {a : ArraySchema Property}
    (known : ∀ key ∈ fields.map (·.1), key ∈ ["type", "element", "items", "optional_items"] ∨
      normalizeKey key ∈ ArraySchema.optionNames)
    (unmixed : ¬ (Given "element" fields ∧
      (Given "items" fields ∨ Given "optional_items" fields))) :
    Understood fields (.array a)
  | leaf {l : Leaf}
    (known : ∀ key ∈ fields.map (·.1), key = "type" ∨ normalizeKey key ∈ Leaf.flagNames ∨
      Registry.builtin.hasValidator (normalizeKey key) = true)
    (validators : List.Forall₂
      (fun field w => Registry.builtin.buildValidator (normalizeKey field.1) field.2 = .ok w)
      (fields.filter fun field => Registry.builtin.hasValidator (normalizeKey field.1))
      l.validators)
    (distinct : (l.validators.map (·.name)).Nodup) : Understood fields (.leaf l)

/-- The options of a node that make validators are its fields that name one. -/
theorem filter_options (ho : n.options = .ok o)
    (plain : ∀ key ∈ structuralKeys, r.hasValidator (normalizeKey key) = false) :
    (o.entries.filter fun entry => r.hasValidator entry.1) =
      stored (n.fields.filter fun field => r.hasValidator (normalizeKey field.1)) := by
  have hplain : ∀ field : String × Json, (r.hasValidator (normalizeKey field.1) &&
      !structuralKeys.contains field.1) = r.hasValidator (normalizeKey field.1) := by
    intro field
    by_cases hkey : field.1 ∈ structuralKeys
    · simp [plain _ hkey]
    · simp [hkey]
  rw [entries_of_options ho, stored, stored, List.filter_map, Node.optionFields,
    List.filter_filter]
  exact congrArg _ (List.filter_congr fun field _ => hplain field)

theorem understood_of_hash {h : HashSchema Property} {built : Parts} (hok : hash n built = .ok h) :
    Understood n.fields (.hash h) := by
  have structural : ∀ key ∈ structuralKeys, key ∉ ["element", "items", "optional_items"] →
      key ∈ ["type", "properties"] := by decide
  obtain ⟨_, _, _, hreject, -, ho, hstart, -⟩ := hash_eq_ok hok
  refine .hash fun key hkey => ?_
  rcases key_cases ho hreject hkey with ⟨hstructural, hkept⟩ | hname
  · exact .inl (structural key hstructural hkept)
  · exact .inr (HashSchema.known_of_ofOptions hstart hname)

theorem understood_of_array {a : ArraySchema Property}
    (hok : array n (parts r path (.object n.fields)) = .ok a) : Understood n.fields (.array a) := by
  have structural : ∀ key ∈ structuralKeys, key ∉ ["properties"] →
      key ∈ ["type", "element", "items", "optional_items"] := by decide
  obtain ⟨_, _, _, _, _, hreject, -, -, -, ho, hstart, -⟩ := array_eq_ok hok
  refine .array ?_ ?_
  · intro key hkey
    rcases key_cases ho hreject hkey with ⟨hstructural, hkept⟩ | hname
    · exact .inl (structural key hstructural hkept)
    · exact .inr (ArraySchema.known_of_ofOptions hstart hname)
  · rintro ⟨⟨c, hl, hc⟩, hlists⟩
    obtain ⟨element, first, later, helement, hfirst, hlater, hmode⟩ := mode_of_array hok
    obtain ⟨q, rfl, -⟩ := element_built_at helement (.element hl hc)
    obtain ⟨-, rfl, rfl⟩ := element_of_modeOf hmode
    rcases hlists with hitems | hoptional
    · obtain ⟨_, hsome⟩ := exists_of_given hfirst hitems
      cases hsome
    · obtain ⟨_, hsome⟩ := exists_of_given hlater hoptional
      cases hsome

theorem understood_of_leaf {kind : String} (known : n.resolve .builtin = .ok kind)
    (noHash : kind ≠ hashKind) (noArray : kind ≠ arrayKind) (hok : leaf .builtin kind n = .ok p) :
    Understood n.fields p := by
  have structural : ∀ key ∈ structuralKeys,
      key ∉ ["properties", "element", "items", "optional_items"] → key = "type" := by decide
  have plain : ∀ key ∈ structuralKeys,
      Registry.builtin.hasValidator (normalizeKey key) = false := by decide
  rw [Node.resolve, located, mapError_eq_ok_iff] at known
  obtain ⟨o, hreject, ho, hp⟩ := leaf_eq_ok hok
  obtain ⟨l, rfl, options, validators, distinct⟩ :=
    Registry.leaf_of_buildProperty known noHash noArray hp
  refine .leaf ?_ ?_ distinct
  · intro key hkey
    rcases key_cases ho hreject hkey with ⟨hstructural, hkept⟩ | hname
    · exact .inl (structural key hstructural hkept)
    · exact .inr (options _ hname)
  · rw [filter_options ho plain] at validators
    exact List.forall₂_map_left_iff.mp validators

theorem understood_of_property (h : property .builtin path (.object fields) = .ok p) :
    Understood fields p := by
  cases builds_of_property h with
  | hash hn hok =>
    obtain rfl := fields_of_ofJson hn
    exact understood_of_hash hok
  | array hn hok =>
    obtain rfl := fields_of_ofJson hn
    exact understood_of_array hok
  | leaf hn known noHash noArray hok =>
    obtain rfl := fields_of_ofJson hn
    exact understood_of_leaf known noHash noArray hok

/-- No key of an accepted definition is ignored. Wherever an object stands in it, the schema holds
what the object builds there, and every key of the object means something for that. -/
theorem no_key_is_ignored (h : schema .builtin d = .ok s)
    (found : Found position d (.object fields)) :
    ∃ p, s.toProperty.Holds position p ∧
      property .builtin (root ++ position.written) (.object fields) = .ok p ∧
      Understood fields p := by
  obtain ⟨p, holds, hp⟩ := holds_of_found (property_of_schema h) found
  exact ⟨p, holds, hp, understood_of_property hp⟩

/-- The keys of a score. The name of the second is settled only when it is normalized again. -/
def scoreFields : List (String × Json) := [("type", .string "integer"),
  ("-:greaterThan", .number (.ofNat 3)), ("required", .bool true),
  ("divisibleBy", .number (.ofNat 2))]

def scored : Json := .object [("type", .string "hash"), ("strictMode", .bool false),
  ("properties", .object [("scores", .object [("type", .string "array"),
    ("min_size", .number (.ofNat 1)), ("element", .object scoreFields)])])]

def score : Property := .leaf ⟨"integer", .integer, true, false,
  [.comparison .greaterThan (.ofNat 3), .divisibility false (.ofNat 2)]⟩

def scores : Schema := .hash
  ⟨[("scores", .array ⟨.single score, false, some 1, none, true, false⟩)], false, true, false⟩

theorem scored_schema : schema .builtin scored = .ok scores := rfl

theorem score_property :
    property .builtin "$.properties.scores.element" (.object scoreFields) = .ok score := rfl

/-- Two levels down, the two keys of a definition that are neither its type nor a flag make the two
validators of the leaf that the schema holds there. -/
theorem keys_of_scores_are_understood :
    schema .builtin scored = .ok scores ∧
      Found [.property "scores", .element] scored (.object scoreFields) ∧
      scores.toProperty.Holds [.property "scores", .element] score ∧
      Understood scoreFields score := by
  have found : Found [.property "scores", .element] scored (.object scoreFields) :=
    .inside (.property rfl (.head _)) (.inside (.element rfl nofun) .here)
  obtain ⟨p, holds, hp, understood⟩ := no_key_is_ignored scored_schema found
  have same : p = score := Except.ok.inj (hp.symm.trans score_property)
  rw [same] at holds understood
  exact ⟨scored_schema, found, holds, understood⟩

end Definition

end Conform
