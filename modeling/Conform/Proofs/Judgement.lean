import Conform.Proofs.Faults

/-!
Which builtin validators have a verdict on the values of which builtin types. A schema whose leaves
keep to these pairs never fails on a document; any other pair fails on the first value it meets.
-/

namespace Conform
open Outcome

namespace TypeTest

def IsBuiltin : TypeTest → Prop
  | custom _ => False
  | _ => True

def isNumeric : TypeTest → Bool
  | integer | float | number => true
  | _ => false

def isText : TypeTest → Bool
  | string => true
  | _ => false

/-- What the values of a builtin type are, null apart. -/
theorem value_of_accepts {t : TypeTest} {v : Json} (hb : t.IsBuiltin) (hv : v ≠ .null)
    (ht : t.accepts v = true) :
    (∃ s, t = string ∧ v = .string s) ∨ (∃ n, t.isNumeric = true ∧ v = .number n) ∨
      ∃ b, t = boolean ∧ v = .bool b := by
  cases t with
  | string =>
    cases v <;> simp_all [accepts]
  | integer | float | number =>
    cases v <;> simp_all [accepts, isNumeric, Json.isInteger, Json.isFloat]
  | boolean =>
    cases v <;> simp_all [accepts]
  | null =>
    cases v <;> simp_all [accepts, Json.isNull]
  | custom => exact hb.elim

end TypeTest

theorem Numeric.isMultipleOf?_eq_none_iff {a b : Numeric} :
    a.isMultipleOf? b = none ↔ ∃ x y, a = int x ∧ b = int y ∧ (y = 0 ∨ x = minInt ∧ y = -1) := by
  cases a <;> cases b <;> simp [isMultipleOf?, Decidable.or_iff_not_imp_left]

namespace Validator

/-- Not from outside. A divisor that is zero is refused when a validator is made. -/
def IsBuiltin : Validator → Prop
  | custom .. => False
  | divisibility _ divisor => (Numeric.ofNumber divisor).isZero = false
  | _ => True

/-- Whether a builtin validator has a verdict on the values of a builtin type. Null never gets as
far as a validator, so any validator will do at a leaf for null. -/
def judges : Validator → TypeTest → Bool
  | _, .null => true
  | equality .., _ | membership .., _ => true
  | comparison .., t => t.isText || t.isNumeric
  | divisibility .., t => t.isNumeric
  | matching _, t => t.isText
  | allowBlank allowed, t | allowEmpty allowed, t => allowed || t.isText
  | custom .., _ => false

/-- The one division of 128-bit integers whose quotient does not fit. -/
def Overflows (w : Validator) (v : Json) : Prop :=
  ∃ negated divisor, w = divisibility negated divisor ∧ Numeric.ofNumber divisor = .int (-1) ∧
    Numeric.ofJson? v = some (.int Numeric.minInt)

variable {w : Validator} {t : TypeTest} {v : Json}

/-- On numbers a division has a verdict, unless it overflows. -/
theorem divisibility_judge_number {negated : Bool} {divisor n : Number}
    (hd : (Numeric.ofNumber divisor).isZero = false)
    (ho : ¬ (divisibility negated divisor).Overflows (.number n)) :
    ∃ b, (divisibility negated divisor).judge (.number n) = .ok b := by
  simp only [judge, Numeric.ofJson?]
  cases hm : (Numeric.ofNumber n).isMultipleOf? (Numeric.ofNumber divisor) with
  | some b => exact ⟨b != negated, rfl⟩
  | none =>
    obtain ⟨x, y, hx, hy, h⟩ := Numeric.isMultipleOf?_eq_none_iff.mp hm
    rw [hy] at hd
    rcases h with rfl | ⟨rfl, rfl⟩
    · cases hd
    · exact (ho ⟨negated, divisor, rfl, hy, congrArg some hx⟩).elim

theorem judge_of_overflows (h : w.Overflows v) : w.judge v = .error .remainder := by
  obtain ⟨negated, divisor, rfl, hd, hv⟩ := h
  simp only [judge, hv, hd]
  rfl

/-- A remainder that does not exist is the only fault of a builtin validator that is not the
schema's. -/
theorem overflows_of_judge (hw : w.IsBuiltin) (h : w.judge v = .error .remainder) :
    w.Overflows v := by
  cases w with
  | divisibility negated divisor =>
    cases v with
    | number n =>
      by_cases ho : (divisibility negated divisor).Overflows (.number n)
      · exact ho
      · obtain ⟨b, hb⟩ := divisibility_judge_number hw ho
        rw [hb] at h
        cases h
    | _ => cases h
  | custom => exact hw.elim
  | equality | membership => cases h
  | comparison =>
    simp only [judge] at h
    split at h <;> cases h
  | matching =>
    cases v <;> cases h
  | allowBlank allowed | allowEmpty allowed =>
    cases allowed <;> cases v <;> cases h

theorem judge_of_judges (hw : w.IsBuiltin) (hb : t.IsBuiltin) (hv : v ≠ .null)
    (ht : t.accepts v = true) (h : w.judges t = true) (ho : ¬ w.Overflows v) :
    ∃ b, w.judge v = .ok b := by
  rcases TypeTest.value_of_accepts hb hv ht with ⟨s, rfl, rfl⟩ | ⟨n, hn, rfl⟩ | ⟨b, rfl, rfl⟩
  · cases w with
    | allowBlank allowed | allowEmpty allowed => cases allowed <;> exact ⟨_, rfl⟩
    | custom => exact hw.elim
    | divisibility => cases h
    | _ => exact ⟨_, rfl⟩
  · cases w with
    | divisibility => exact divisibility_judge_number hw ho
    | matching => cases t <;> cases h <;> cases hn
    | allowBlank allowed | allowEmpty allowed =>
      obtain rfl : allowed = true := by
        cases t <;> simp_all [judges, TypeTest.isText, TypeTest.isNumeric]
      exact ⟨true, rfl⟩
    | custom => exact hw.elim
    | _ => exact ⟨_, rfl⟩
  · cases w with
    | equality | membership => exact ⟨_, rfl⟩
    | allowBlank allowed | allowEmpty allowed =>
      obtain rfl : allowed = true := by simpa [judges, TypeTest.isText] using h
      exact ⟨true, rfl⟩
    | custom => exact hw.elim
    | _ => cases h

theorem judge_of_not_judges (hw : w.IsBuiltin) (hb : t.IsBuiltin) (hv : v ≠ .null)
    (ht : t.accepts v = true) (h : w.judges t = false) :
    w.judge v = .error (.schema (.incompatibleValue w.name v.kindName)) := by
  rcases TypeTest.value_of_accepts hb hv ht with ⟨s, rfl, rfl⟩ | ⟨n, hn, rfl⟩ | ⟨b, rfl, rfl⟩
  · cases w with
    | divisibility => rfl
    | custom => exact hw.elim
    | _ => simp [judges, TypeTest.isText] at h
  · cases w with
    | matching => rfl
    | allowBlank allowed | allowEmpty allowed =>
      obtain rfl : allowed = false := by
        cases t <;> simp_all [judges, TypeTest.isText, TypeTest.isNumeric]
      rfl
    | custom => exact hw.elim
    | _ => cases t <;> simp_all [judges, TypeTest.isText, TypeTest.isNumeric]
  · cases w with
    | comparison | divisibility | matching => rfl
    | allowBlank allowed | allowEmpty allowed =>
      obtain rfl : allowed = false := by simpa [judges, TypeTest.isText] using h
      rfl
    | custom => exact hw.elim
    | _ => simp [judges] at h

end Validator

/-- A builtin type, and builtin validators only. -/
def Leaf.IsBuiltin (l : Leaf) : Prop := l.test.IsBuiltin ∧ ∀ w ∈ l.validators, w.IsBuiltin

def Property.IsBuiltin (p : Property) : Prop := ∀ l, Occurs l p → l.IsBuiltin

/-- Every leaf keeps to validators that have a verdict on the values of its type. -/
def Property.IsJudged (p : Property) : Prop :=
  ∀ l, Occurs l p → ∀ w ∈ l.validators, w.judges l.test = true

variable {s : Schema} {document v : Json} {l : Leaf} {e : SchemaError}

/-- A builtin schema fails on a document only where it asks a validator about a value of a type that
the validator does not judge. -/
theorem unjudged_of_schema_error (hs : s.toProperty.IsBuiltin)
    (h : s.validate document = .error (.schema e)) :
    ∃ l w u, Occurs l s.toProperty ∧ w ∈ l.validators ∧ w.judges l.test = false ∧
      Consults s.toProperty document w u ∧ e = .incompatibleValue w.name u.kindName := by
  obtain ⟨w, u, hc, he⟩ := Schema.validate_eq_error_iff.mp h
  obtain ⟨l, hl, hw, ht, hu⟩ := hc.exists_occurs
  obtain ⟨hb, hws⟩ := hs l hl
  have hwb := hws w hw
  cases hj : w.judges l.test with
  | true =>
    by_cases ho : w.Overflows u
    · rw [Validator.judge_of_overflows ho] at he
      cases he
    · obtain ⟨b, hok⟩ := Validator.judge_of_judges hwb hb hu ht hj ho
      rw [hok] at he
      cases he
  | false =>
    rw [Validator.judge_of_not_judges hwb hb hu ht hj] at he
    cases he
    exact ⟨l, w, u, hl, hw, hj, hc, rfl⟩

/-- A leaf with a validator that does not judge its type fails on every value of the type. -/
theorem leaf_check_incompatible (hl : l.IsBuiltin)
    (hex : ∃ w ∈ l.validators, w.judges l.test = false) (hv : v ≠ .null)
    (ht : l.test.accepts v = true) (ho : ∀ w ∈ l.validators, ¬ w.Overflows v) :
    ∃ w ∈ l.validators, w.judges l.test = false ∧
      l.check v = .error (.schema (.incompatibleValue w.name v.kindName)) := by
  obtain ⟨hb, hws⟩ := hl
  have hall : ∀ w ∈ l.validators, (∃ b, w.judge v = .ok b) ∨ w.judges l.test = false := by
    intro w hw
    cases hj : w.judges l.test with
    | true => exact .inl (Validator.judge_of_judges (hws w hw) hb hv ht hj (ho w hw))
    | false => exact .inr rfl
  obtain ⟨w, hw, hj⟩ := firstAt_iff_exists.mp (firstAt_of_forall hall hex)
  refine ⟨w, hw.mem, hj, Property.leaf_check_eq_error_iff.mpr ⟨hv, ht, ?_⟩⟩
  exact firstAt_iff_exists.mpr
    ⟨w, hw, Validator.judge_of_not_judges (hws w hw.mem) hb hv ht hj⟩

/-- Whether a builtin schema can fail on documents is settled by its leaves: not at all when each of
them keeps to validators that judge its type, on every value of a leaf that does not, and never for
another reason. -/
theorem schema_errors_iff_unjudged :
    (∀ s : Schema, s.toProperty.IsBuiltin → s.toProperty.IsJudged →
      ∀ document e, s.validate document ≠ .error (.schema e)) ∧
    (∀ l : Leaf, l.IsBuiltin → (∃ w ∈ l.validators, w.judges l.test = false) →
      ∀ v, v ≠ .null → l.test.accepts v = true → (∀ w ∈ l.validators, ¬ w.Overflows v) →
        ∃ w ∈ l.validators, w.judges l.test = false ∧
          l.check v = .error (.schema (.incompatibleValue w.name v.kindName))) ∧
    ∀ s : Schema, s.toProperty.IsBuiltin → ∀ document e,
      s.validate document = .error (.schema e) →
        ∃ l w u, Occurs l s.toProperty ∧ w ∈ l.validators ∧ w.judges l.test = false ∧
          Consults s.toProperty document w u ∧ e = .incompatibleValue w.name u.kindName := by
  refine ⟨?_, ?_, ?_⟩
  · intro s hs hj document e h
    obtain ⟨l, w, u, hl, hw, hn, -⟩ := unjudged_of_schema_error hs h
    rw [hj l hl w hw] at hn
    cases hn
  · intro l hl hex v hv ht ho
    exact leaf_check_incompatible hl hex hv ht ho
  · intro s hs document e h
    exact unjudged_of_schema_error hs h

/-- Arrays of one leaf, of any length. -/
def Schema.listOf (l : Leaf) : Schema := .array ⟨.single (.leaf l), false, none, none, true, false⟩

theorem occurs_listOf_iff {k : Leaf} : Occurs k (Schema.listOf l).toProperty ↔ k = l := by
  constructor
  · intro h
    cases h with
    | element hp ho =>
      obtain rfl := List.mem_singleton.mp hp
      cases ho
      rfl
  · rintro rfl
    exact .element (List.mem_singleton.mpr rfl) .leaf

/-- Integers have remainders by two; booleans have no order. -/
theorem even_integers_and_ordered_booleans :
    let even : Leaf := ⟨"integer", .integer, true, false, [.divisibility false (.ofNat 2)]⟩
    let ordered : Leaf := ⟨"boolean", .boolean, true, false, [.comparison .greaterThan (.ofNat 3)]⟩
    (∀ e, (Schema.listOf even).validate (.array [.number (.ofNat 3)]) ≠ .error (.schema e)) ∧
      (∃ w ∈ ordered.validators, w.judges ordered.test = false ∧
        ordered.check (.bool true) = .error (.schema (.incompatibleValue w.name "a boolean"))) ∧
      ∃ w u, Consults (Schema.listOf ordered).toProperty (.array [.bool true]) w u ∧
        w.judges .boolean = false := by
  intro even ordered
  have builtin : ∀ l : Leaf, l.IsBuiltin → (Schema.listOf l).toProperty.IsBuiltin := by
    intro l hl k hk
    obtain rfl := occurs_listOf_iff.mp hk
    exact hl
  have heven : ∀ w ∈ even.validators, w.IsBuiltin ∧ w.judges even.test = true := by
    simp [even, Validator.IsBuiltin, Validator.judges, TypeTest.isNumeric]
    rfl
  have hordered : ∀ w ∈ ordered.validators,
      w.IsBuiltin ∧ w.judges ordered.test = false ∧ ¬ w.Overflows (.bool true) := by
    simp [ordered, Validator.IsBuiltin, Validator.judges, TypeTest.isText, TypeTest.isNumeric,
      Validator.Overflows]
  obtain ⟨never, always, only⟩ := schema_errors_iff_unjudged
  refine ⟨?_, ?_, ?_⟩
  · refine never _ (builtin even ⟨trivial, fun w hw => (heven w hw).1⟩) ?_ _
    intro k hk w hw
    obtain rfl := occurs_listOf_iff.mp hk
    exact (heven w hw).2
  · exact always ordered ⟨trivial, fun w hw => (hordered w hw).1⟩
      ⟨_, List.mem_singleton.mpr rfl, (hordered _ (List.mem_singleton.mpr rfl)).2.1⟩ (.bool true)
      (by simp) rfl fun w hw => (hordered w hw).2.2
  · have fails : (Schema.listOf ordered).validate (.array [.bool true]) =
        .error (.schema (.incompatibleValue "greater_than" "a boolean")) := rfl
    obtain ⟨l, w, u, hl, -, hj, hc, -⟩ := only _
      (builtin ordered ⟨trivial, fun w hw => (hordered w hw).1⟩) _ _ fails
    obtain rfl := occurs_listOf_iff.mp hl
    exact ⟨w, u, hc, hj⟩

end Conform
