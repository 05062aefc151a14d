import Conform.Proofs.Assoc
import Conform.Proofs.Checking

/-!
What it is for a value to conform to a property, without any mention of errors, and that a check
finds nothing wrong exactly with the values that conform.
-/

namespace Conform
open Outcome

/-- No two positions hold equal values. -/
def Distinct (items : List Json) : Prop :=
  ∀ i j, (hij : i < j) → (hj : j < items.length) → (items[i] == items[j]) = false

def Within (minSize maxSize : Option Nat) (length : Nat) : Prop :=
  (∀ least, minSize = some least → least ≤ length) ∧
    ∀ most, maxSize = some most → length ≤ most

/-- A value is what a property describes. -/
inductive Conforms : Property → Json → Prop where
  | leafNull {l : Leaf} (h : l.allowNil = true ∨ l.test.accepts .null = true) :
    Conforms (.leaf l) .null
  | leaf {l : Leaf} {v : Json} (present : v ≠ .null) (type : l.test.accepts v = true)
    (accepted : ∀ w ∈ l.validators, w.judge v = .ok true) :
    Conforms (.leaf l) v
  | hashNull {h : HashSchema Property} (allowed : h.allowNil = true) :
    Conforms (.hash h) .null
  | hash {h : HashSchema Property} {fields : List (String × Json)}
    (declared : h.strict = true → ∀ field ∈ fields, field.1 ∈ h.properties.map (·.1))
    (present : ∀ name p v, (name, p) ∈ h.properties → Assoc.lookup name fields = some v →
      Conforms p v)
    (absent : ∀ name p, (name, p) ∈ h.properties → Assoc.lookup name fields = none →
      p.isRequired = false) :
    Conforms (.hash h) (.object fields)
  | arrayNull {a : ArraySchema Property} (allowed : a.allowNil = true) :
    Conforms (.array a) .null
  | arrayUnset {a : ArraySchema Property} {items : List Json} (mode : a.mode = .unset)
    (distinct : a.unique = true → Distinct items)
    (size : Within a.minSize a.maxSize items.length) :
    Conforms (.array a) (.array items)
  | arraySingle {a : ArraySchema Property} {element : Property} {items : List Json}
    (mode : a.mode = .single element) (distinct : a.unique = true → Distinct items)
    (size : Within a.minSize a.maxSize items.length)
    (each : ∀ v ∈ items, Conforms element v) :
    Conforms (.array a) (.array items)
  | arrayTuple {a : ArraySchema Property} {required optional : List Property} {items : List Json}
    (mode : a.mode = .tuple required optional) (distinct : a.unique = true → Distinct items)
    (least : required.length ≤ items.length)
    (most : items.length ≤ required.length + optional.length)
    (each : ∀ (i : Nat) p v, (required ++ optional)[i]? = some p → items[i]? = some v →
      Conforms p v) :
    Conforms (.array a) (.array items)

/-- Every element of an array conforms to the property that describes it. -/
theorem conforms_array_iff {a : ArraySchema Property} {items : List Json} :
    Conforms (.array a) (.array items) ↔ (a.unique = true → Distinct items) ∧
      Within (a.mode.bounds a.minSize a.maxSize).1 (a.mode.bounds a.minSize a.maxSize).2
        items.length ∧
      ∀ p v, (p, v) ∈ a.mode.pairs items → Conforms p v := by
  constructor
  · intro hc
    cases hc with
    | arrayUnset hm distinct size =>
      rw [hm]
      exact ⟨distinct, size, by simp [ArrayMode.pairs]⟩
    | arraySingle hm distinct size each =>
      rw [hm]
      refine ⟨distinct, size, ?_⟩
      intro p v hmem
      obtain ⟨w, hw, heq⟩ := List.mem_map.mp hmem
      obtain ⟨rfl, rfl⟩ := Prod.mk.inj heq
      exact each _ hw
    | arrayTuple hm distinct least most each =>
      rw [hm]
      refine ⟨distinct, ⟨?_, ?_⟩, ?_⟩
      · rintro _ ⟨⟩
        exact least
      · rintro _ ⟨⟩
        exact most
      · intro p v hmem
        obtain ⟨i, hi⟩ := List.getElem?_of_mem hmem
        obtain ⟨hp, hv⟩ := List.getElem?_zip_eq_some.mp hi
        exact each i p v hp hv
  · rintro ⟨distinct, size, each⟩
    cases hm : a.mode with
    | unset =>
      rw [hm] at size
      exact .arrayUnset hm distinct size
    | single element =>
      rw [hm] at size each
      refine .arraySingle hm distinct size ?_
      intro v hv
      exact each element v (List.mem_map.mpr ⟨v, hv, rfl⟩)
    | tuple required optional =>
      rw [hm] at size each
      refine .arrayTuple hm distinct (size.1 _ rfl) (size.2 _ rfl) ?_
      intro i p v hp hv
      exact each p v (List.mem_of_getElem? (List.getElem?_zip_eq_some.mpr ⟨hp, hv⟩))

theorem hasDuplicates_eq_false_iff {items : List Json} :
    hasDuplicates items = false ↔ Distinct items := by
  have hpair : hasDuplicates items = false ↔ items.Pairwise fun v w => (v == w) = false := by
    induction items with
    | nil => simp [hasDuplicates]
    | cons v rest ih => simp [hasDuplicates, ih]
  rw [hpair, List.pairwise_iff_getElem]
  constructor
  · intro h i j hij hj
    exact h i j (by omega) hj hij
  · intro h i j _ hj hij
    exact h i j hij hj

/-- Nothing is wrong with an array itself. -/
theorem containerErrors_eq_nil_iff_fits {P : Type} {a : ArraySchema P} {items : List Json} :
    containerErrors a items = [] ↔ (a.unique = true → Distinct items) ∧
      Within (a.mode.bounds a.minSize a.maxSize).1 (a.mode.bounds a.minSize a.maxSize).2
        items.length := by
  rw [containerErrors_eq_nil_iff, hasDuplicates_eq_false_iff, sizeErrors_eq_nil_iff]
  rfl

namespace Property
variable {h : HashSchema Property} {a : ArraySchema Property} {v : Json}

theorem clean_map_ofMap_iff {r : Except Fault ErrorMap} : Clean (r.map .ofMap) ↔ r = .ok [] := by
  cases r with
  | error f => simp [Clean]
  | ok m => simp [Clean, FieldErrors.ofMap_isEmpty]

theorem clean_leaf_iff {l : Leaf} : Clean (l.check v) ↔ Conforms (.leaf l) v := by
  unfold Leaf.check
  split
  · rename_i hnull
    obtain rfl : v = .null := by cases v <;> simp_all [Json.isNull]
    cases hok : l.allowNil || l.test.accepts .null with
    | true => exact ⟨fun _ => .leafNull (by simpa using hok), fun _ => ⟨.none, rfl, rfl⟩⟩
    | false =>
      constructor
      · rintro ⟨found, heq, hempty⟩
        cases heq
        cases hempty
      · intro hc
        cases hc with
        | leafNull ok => simp_all
        | leaf present => exact (present rfl).elim
  · rename_i hnull
    have hne : v ≠ .null := by
      rintro rfl
      exact hnull rfl
    split
    · rename_i htype
      constructor
      · rintro ⟨found, heq, hempty⟩
        obtain ⟨messages, hm, rfl⟩ := map_eq_ok_iff.mp heq
        obtain rfl : messages = [] := List.isEmpty_iff.mp hempty
        exact .leaf hne htype (Leaf.runValidators_eq_ok_nil_iff.mp hm)
      · intro hc
        cases hc with
        | leafNull => exact (hne rfl).elim
        | leaf _ _ accepted =>
          rw [Leaf.runValidators_eq_ok_nil_iff.mpr accepted]
          exact ⟨_, rfl, rfl⟩
    · rename_i htype
      constructor
      · rintro ⟨found, heq, hempty⟩
        cases heq
        cases hempty
      · intro hc
        cases hc with
        | leafNull => exact (hne rfl).elim
        | leaf _ type _ => exact (htype type).elim

theorem undeclared_eq_false_iff {fields : List (String × Json)} :
    undeclared h fields = false ↔
      (h.strict = true → ∀ field ∈ fields, field.1 ∈ h.properties.map (·.1)) := by
  simp only [undeclared, Bool.and_eq_false_imp, List.any_eq_false, Bool.not_eq_true',
    Bool.not_eq_false, Assoc.contains_iff]

theorem hashErrors_eq_ok_nil_iff :
    hashErrors h v = .ok [] ↔ v = .null ∧ h.allowNil = true ∨
      ∃ fields, v = .object fields ∧ undeclared h fields = false ∧
        ∀ entry ∈ h.properties, Clean (fieldVerdict fields entry) := by
  by_cases hv : ∃ fields, v = .object fields
  · obtain ⟨fields, rfl⟩ := hv
    rw [hashErrors_object, checkFields_eq_foldlM]
    cases hu : undeclared h fields with
    | true => simp [Message.errors_ne_nil, hu]
    | false =>
      rw [if_neg (by simp), foldlM_eq_ok_nil_iff fun found => found.isEmpty = true]
      · simp [hu, Clean]
      · intro m entry found
        exact ErrorMap.insert_eq_nil_iff
  · have hne : ∀ fields, v ≠ .object fields := fun fields heq => hv ⟨fields, heq⟩
    rw [hashErrors_of_ne_object h hne, Except.ok.injEq, refusal_eq_nil_iff]
    simp [hne]

theorem arrayErrors_eq_ok_nil_iff :
    arrayErrors a v = .ok [] ↔ v = .null ∧ a.allowNil = true ∨
      ∃ items, v = .array items ∧ containerErrors a items = [] ∧
        ∀ pair ∈ a.mode.pairs items, Clean (pairVerdict pair) := by
  by_cases hv : ∃ items, v = .array items
  · obtain ⟨items, rfl⟩ := hv
    rw [arrayErrors_array]
    split
    · rename_i hc
      rw [firstVerdict_eq_ok_nil_iff, List.forall_mem_map]
      simp [List.isEmpty_iff.mp hc]
    · rename_i hc
      simp_all
  · have hne : ∀ items, v ≠ .array items := fun items heq => hv ⟨items, heq⟩
    rw [arrayErrors_of_ne_array a hne, Except.ok.injEq, refusal_eq_nil_iff]
    simp [hne]

theorem fieldVerdict_clean_iff {fields : List (String × Json)} {name : String} {p : Property} :
    Clean (fieldVerdict fields (name, p)) ↔
      (∀ v, Assoc.lookup name fields = some v → Clean (p.check v)) ∧
        (Assoc.lookup name fields = none → p.isRequired = false) := by
  cases hl : Assoc.lookup name fields with
  | some v => simp [fieldVerdict_present hl]
  | none =>
    rw [fieldVerdict_absent hl]
    cases p.isRequired with
    | true => simp [Clean, missing_not_isEmpty]
    | false => simp [Clean, FieldErrors.none, FieldErrors.isEmpty]

theorem clean_check_iff (p : Property) (v : Json) : Clean (p.check v) ↔ Conforms p v := by
  induction p generalizing v with
  | leaf l => exact clean_leaf_iff
  | hash h ih =>
    change Clean ((hashErrors h v).map .ofMap) ↔ _
    rw [clean_map_ofMap_iff, hashErrors_eq_ok_nil_iff]
    constructor
    · rintro (⟨rfl, allowed⟩ | ⟨fields, rfl, hu, each⟩)
      · exact .hashNull allowed
      · refine .hash (undeclared_eq_false_iff.mp hu) ?_ ?_
        · intro name p v hp hl
          exact (ih name p hp v).mp ((fieldVerdict_clean_iff.mp (each _ hp)).1 v hl)
        · intro name p hp hl
          exact (fieldVerdict_clean_iff.mp (each _ hp)).2 hl
    · intro hc
      cases hc with
      | hashNull allowed => exact .inl ⟨rfl, allowed⟩
      | hash declared present absent =>
        refine .inr ⟨_, rfl, undeclared_eq_false_iff.mpr declared, ?_⟩
        rintro ⟨name, p⟩ hp
        refine fieldVerdict_clean_iff.mpr ⟨?_, absent name p hp⟩
        intro v hl
        exact (ih name p hp v).mpr (present name p v hp hl)
  | array a ih =>
    change Clean ((arrayErrors a v).map .ofMap) ↔ _
    rw [clean_map_ofMap_iff, arrayErrors_eq_ok_nil_iff]
    constructor
    · rintro (⟨rfl, allowed⟩ | ⟨items, rfl, hcont, each⟩)
      · exact .arrayNull allowed
      · obtain ⟨distinct, size⟩ := containerErrors_eq_nil_iff_fits.mp hcont
        refine conforms_array_iff.mpr ⟨distinct, size, ?_⟩
        intro p v hmem
        exact (ih p (ArrayMode.mem_of_mem_pairs hmem).1 v).mp (each _ hmem)
    · intro hc
      by_cases hv : ∃ items, v = .array items
      · obtain ⟨items, rfl⟩ := hv
        obtain ⟨distinct, size, each⟩ := conforms_array_iff.mp hc
        refine .inr ⟨items, rfl, containerErrors_eq_nil_iff_fits.mpr ⟨distinct, size⟩, ?_⟩
        rintro ⟨p, v⟩ hmem
        exact (ih p (ArrayMode.mem_of_mem_pairs hmem).1 v).mpr (each p v hmem)
      · cases hc with
        | arrayNull allowed => exact .inl ⟨rfl, allowed⟩
        | _ => exact (hv ⟨_, rfl⟩).elim

end Property

/-- A document has no errors exactly when it conforms to the schema. -/
theorem validate_eq_ok_nil_iff (s : Schema) (document : Json) :
    s.validate document = .ok [] ↔ Conforms s.toProperty document := by
  rw [← Property.clean_check_iff]
  cases s with
  | hash h => exact Property.clean_map_ofMap_iff.symm
  | array a => exact Property.clean_map_ofMap_iff.symm

end Conform
