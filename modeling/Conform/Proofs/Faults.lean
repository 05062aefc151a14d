import Conform.Proofs.Checking

/-!
How a check comes to a fault: it is always a validator that cannot judge a value which the check
has reached.
-/

namespace Conform
open Outcome

/-- A check of a value against a container runs this check of a value inside it. -/
inductive Calls : Property → Json → Property → Json → Prop where
  | field {h : HashSchema Property} {fields : List (String × Json)} {name : String} {p : Property}
    {v : Json} (shown : Property.undeclared h fields = false)
    (found : Assoc.lookup name fields = some v)
    (first : FirstAt (fun entry => ∃ e, Property.fieldVerdict fields entry = .ok e)
      (· = (name, p)) h.properties) :
    Calls (.hash h) (.object fields) p v
  | element {a : ArraySchema Property} {items : List Json} {p : Property} {v : Json}
    (fits : containerErrors a items = [])
    (first : FirstAt (fun pair => Property.Clean (Property.pairVerdict pair)) (· = (p, v))
      (a.mode.pairs items)) :
    Calls (.array a) (.array items) p v

/-- A check runs another one, through any number of containers. -/
inductive Reaches : Property → Json → Property → Json → Prop where
  | self {p : Property} {v : Json} : Reaches p v p v
  | call {p q r : Property} {v u w : Json} (c : Calls p v q u) (h : Reaches q u r w) :
    Reaches p v r w

/-- A check asks a validator about a value: the check reaches a leaf that takes values of this
type, and no validator before this one faults. -/
def Consults (p : Property) (v : Json) (w : Validator) (u : Json) : Prop :=
  ∃ l, Reaches p v (.leaf l) u ∧ u ≠ .null ∧ l.test.accepts u = true ∧
    FirstAt (fun x => ∃ b, x.judge u = .ok b) (· = w) l.validators

/-- A leaf stands somewhere in a property. -/
inductive Occurs : Leaf → Property → Prop where
  | leaf {l : Leaf} : Occurs l (.leaf l)
  | field {l : Leaf} {h : HashSchema Property} {name : String} {p : Property}
    (hp : (name, p) ∈ h.properties) (ho : Occurs l p) : Occurs l (.hash h)
  | element {l : Leaf} {a : ArraySchema Property} {p : Property}
    (hp : p ∈ a.mode.properties) (ho : Occurs l p) : Occurs l (.array a)

variable {p q : Property} {v u : Json} {l : Leaf} {w : Validator} {f : Fault}

theorem Calls.occurs (h : Calls p v q u) (ho : Occurs l q) : Occurs l p := by
  cases h with
  | field _ _ first => exact .field first.mem ho
  | element _ first => exact .element (ArrayMode.mem_of_mem_pairs first.mem).1 ho

theorem Reaches.occurs (h : Reaches p v q u) (ho : Occurs l q) : Occurs l p := by
  induction h with
  | self => exact ho
  | call c _ ih => exact c.occurs (ih ho)

theorem Consults.exists_occurs (h : Consults p v w u) :
    ∃ l, Occurs l p ∧ w ∈ l.validators ∧ l.test.accepts u = true ∧ u ≠ .null := by
  obtain ⟨l, hr, hu, ht, hw⟩ := h
  exact ⟨l, hr.occurs .leaf, hw.mem, ht, hu⟩

namespace Property

theorem fieldVerdict_eq_error_iff {fields : List (String × Json)} {name : String} :
    fieldVerdict fields (name, p) = .error f ↔
      ∃ v, Assoc.lookup name fields = some v ∧ p.check v = .error f := by
  cases hl : Assoc.lookup name fields with
  | some v => simp [fieldVerdict_present hl]
  | none => simp [fieldVerdict_absent hl]

theorem hashErrors_eq_error_iff {h : HashSchema Property} :
    hashErrors h v = .error f ↔ ∃ q u, Calls (.hash h) v q u ∧ q.check u = .error f := by
  constructor
  · intro he
    by_cases hv : ∃ fields, v = .object fields
    · obtain ⟨fields, rfl⟩ := hv
      rw [hashErrors_object, checkFields_eq_foldlM] at he
      cases hu : undeclared h fields with
      | true => simp [hu] at he
      | false =>
        rw [hu, if_neg (by simp), foldlM_eq_error_iff, firstAt_iff_exists] at he
        obtain ⟨⟨name, q⟩, first, hf⟩ := he
        obtain ⟨u, found, hq⟩ := fieldVerdict_eq_error_iff.mp hf
        exact ⟨q, u, .field hu found first, hq⟩
    · rw [hashErrors_of_ne_object h fun fields heq => hv ⟨fields, heq⟩] at he
      cases he
  · rintro ⟨q, u, hc, hq⟩
    cases hc with
    | field shown found first =>
      rw [hashErrors_object, checkFields_eq_foldlM, shown, if_neg (by simp), foldlM_eq_error_iff,
        firstAt_iff_exists]
      exact ⟨_, first, fieldVerdict_eq_error_iff.mpr ⟨u, found, hq⟩⟩

theorem arrayErrors_eq_error_iff {a : ArraySchema Property} :
    arrayErrors a v = .error f ↔ ∃ q u, Calls (.array a) v q u ∧ q.check u = .error f := by
  constructor
  · intro he
    by_cases hv : ∃ items, v = .array items
    · obtain ⟨items, rfl⟩ := hv
      rw [arrayErrors_array] at he
      split at he
      · rename_i hc
        rw [firstVerdict_eq_error_iff, firstAt_map, firstAt_iff_exists] at he
        obtain ⟨⟨q, u⟩, first, hq⟩ := he
        exact ⟨q, u, .element (List.isEmpty_iff.mp hc) first, hq⟩
      · cases he
    · rw [arrayErrors_of_ne_array a fun items heq => hv ⟨items, heq⟩] at he
      cases he
  · rintro ⟨q, u, hc, hq⟩
    cases hc with
    | element fits first =>
      rw [arrayErrors_array, fits, List.isEmpty_nil, if_pos rfl, firstVerdict_eq_error_iff,
        firstAt_map, firstAt_iff_exists]
      exact ⟨_, first, hq⟩

theorem leaf_check_eq_error_iff :
    l.check v = .error f ↔ v ≠ .null ∧ l.test.accepts v = true ∧
      FirstAt (fun w => ∃ b, w.judge v = .ok b) (fun w => w.judge v = .error f) l.validators := by
  unfold Leaf.check
  split
  · rename_i hnull
    obtain rfl : v = .null := by cases v <;> simp_all [Json.isNull]
    split <;> simp
  · rename_i hnull
    have hne : v ≠ .null := by
      rintro rfl
      exact hnull rfl
    split
    · rename_i ht
      rw [map_eq_error_iff, Leaf.runValidators_eq_error_iff]
      simp [hne, ht]
    · rename_i ht
      simp [ht]

theorem check_eq_error_of_calls (h : Calls p v q u) (hq : q.check u = .error f) :
    p.check v = .error f := by
  cases p with
  | leaf l => cases h
  | hash _ => exact map_eq_error_iff.mpr (hashErrors_eq_error_iff.mpr ⟨q, u, h, hq⟩)
  | array _ => exact map_eq_error_iff.mpr (arrayErrors_eq_error_iff.mpr ⟨q, u, h, hq⟩)

theorem check_eq_error_of_reaches (h : Reaches p v q u) (hq : q.check u = .error f) :
    p.check v = .error f := by
  induction h with
  | self => exact hq
  | call c _ ih => exact check_eq_error_of_calls c (ih hq)

theorem exists_reaches_of_check_eq_error (h : p.check v = .error f) :
    ∃ l u, Reaches p v (.leaf l) u ∧ l.check u = .error f := by
  induction p generalizing v with
  | leaf l => exact ⟨l, v, .self, h⟩
  | hash s ih =>
    obtain ⟨q, u, hc, hq⟩ := hashErrors_eq_error_iff.mp (map_eq_error_iff.mp h)
    obtain ⟨name, hmem⟩ : ∃ name, (name, q) ∈ s.properties := by
      cases hc with
      | field _ _ first => exact ⟨_, first.mem⟩
    obtain ⟨l, w, hr, hl⟩ := ih name q hmem hq
    exact ⟨l, w, .call hc hr, hl⟩
  | array a ih =>
    obtain ⟨q, u, hc, hq⟩ := arrayErrors_eq_error_iff.mp (map_eq_error_iff.mp h)
    have hmem : q ∈ a.mode.properties := by
      cases hc with
      | element _ first => exact (ArrayMode.mem_of_mem_pairs first.mem).1
    obtain ⟨l, w, hr, hl⟩ := ih q hmem hq
    exact ⟨l, w, .call hc hr, hl⟩

/-- A check ends in a fault exactly when it asks a validator that comes to this fault. -/
theorem check_eq_error_iff :
    p.check v = .error f ↔ ∃ w u, Consults p v w u ∧ w.judge u = .error f := by
  constructor
  · intro h
    obtain ⟨l, u, hr, hl⟩ := exists_reaches_of_check_eq_error h
    obtain ⟨hu, ht, first⟩ := leaf_check_eq_error_iff.mp hl
    obtain ⟨w, hw, hf⟩ := firstAt_iff_exists.mp first
    exact ⟨w, u, ⟨l, hr, hu, ht, hw⟩, hf⟩
  · rintro ⟨w, u, ⟨l, hr, hu, ht, hw⟩, hf⟩
    exact check_eq_error_of_reaches hr
      (leaf_check_eq_error_iff.mpr ⟨hu, ht, firstAt_iff_exists.mpr ⟨w, hw, hf⟩⟩)

end Property

theorem Schema.validate_eq_error_iff {s : Schema} {document : Json} :
    s.validate document = .error f ↔
      ∃ w u, Consults s.toProperty document w u ∧ w.judge u = .error f := by
  rw [← Property.check_eq_error_iff]
  cases s with
  | hash h => exact map_eq_error_iff.symm
  | array a => exact map_eq_error_iff.symm

end Conform
