import Conform.Proofs.Equality
import Conform.Proofs.Rounding

/-!
Loose equality of JSON values. Two integers are told apart exactly and any other two numbers as
doubles, so it is an equivalence but for integers that collide: they differ, and a third number
equals both.
-/

namespace Conform

/-- The value of a number as a double. -/
def Number.rounded (n : Number) : Bool ⊕ Int := (Numeric.ofNumber n).toBinary64.value

/-- Two different integers are one double. -/
structure Number.Collides (a b : Number) : Prop where
  left : a.IsExact
  right : b.IsExact
  differ : a.integer ≠ b.integer
  oneDouble : (Binary64.ofInt a.integer).cmp (Binary64.ofInt b.integer) = .eq

namespace Numeric
variable {x y : Numeric}

/-- Numbers compare equal exactly if they are one double and, being integers, one integer. -/
theorem cmp_eq_eq_iff : x.cmp y = .eq ↔ x.toBinary64.value = y.toBinary64.value ∧
    ∀ i j, x = int i → y = int j → i = j := by
  cases x with
  | int i =>
    cases y with
    | int j =>
      rw [cmp, Int.compare_eq_eq]
      constructor
      · rintro rfl
        refine ⟨rfl, ?_⟩
        rintro _ _ ⟨⟩ ⟨⟩
        rfl
      · rintro ⟨-, h⟩
        exact h i j rfl rfl
    | float y =>
      have hcmp : (int i).cmp (float y) = (int i).toBinary64.cmp (float y).toBinary64 := rfl
      rw [hcmp, Binary64.cmp_eq_eq_iff]
      simp
  | float x =>
    have hcmp : (float x).cmp y = (float x).toBinary64.cmp y.toBinary64 := rfl
    rw [hcmp, Binary64.cmp_eq_eq_iff]
    simp

end Numeric

namespace Number
variable {a b : Number}

theorem IsExact.rounded (h : a.IsExact) : a.rounded = (Binary64.ofInt a.integer).value := by
  rw [Number.rounded, Numeric.ofNumber_of_isExact h]
  rfl

theorem IsExact.rounded_withPoint (h : a.IsExact) : a.withPoint.rounded = a.rounded := by
  rw [Number.rounded, Numeric.ofNumber_of_not_isExact a.withPoint_not_isExact, h.rounded]
  exact h.value_withPoint

theorem ofNumber_eq_int_iff {i : Int} :
    Numeric.ofNumber a = .int i ↔ a.IsExact ∧ a.integer = i := by
  by_cases h : a.IsExact
  · rw [Numeric.ofNumber_of_isExact h, Numeric.int.injEq]
    exact (and_iff_right h).symm
  · rw [Numeric.ofNumber_of_not_isExact h]
    exact iff_of_false (by simp) fun hexact => h hexact.1

/-- Up to 2^53 no integers collide. -/
theorem Collides.large (h : a.Collides b) :
    pow2 53 < a.integer.natAbs ∨ pow2 53 < b.integer.natAbs := by
  have hvalue := Binary64.cmp_eq_eq_iff.mp h.oneDouble
  by_contra hsmall
  obtain ⟨ha, hb⟩ := not_or.mp hsmall
  exact h.differ (Binary64.eq_of_value_ofInt (Nat.not_lt.mp ha) (Nat.not_lt.mp hb) hvalue)

end Number

namespace Json
variable {u v w : Json} {a b : Number}

theorem looseEq_number_iff : (number a).looseEq (number b) = true ↔
    a.rounded = b.rounded ∧ (a.IsExact → b.IsExact → a.integer = b.integer) := by
  rw [looseEq, beq_iff_eq, Numeric.cmp_eq_eq_iff]
  refine and_congr_right fun _ => ⟨?_, ?_⟩
  · intro h ha hb
    exact h _ _ (Numeric.ofNumber_of_isExact ha) (Numeric.ofNumber_of_isExact hb)
  · intro h i j hi hj
    obtain ⟨ha, rfl⟩ := Number.ofNumber_eq_int_iff.mp hi
    obtain ⟨hb, rfl⟩ := Number.ofNumber_eq_int_iff.mp hj
    exact h ha hb

/-- What is loosely equal to a number is a number. -/
theorem exists_number_of_looseEq (h : (number a).looseEq v = true) : ∃ b, v = number b := by
  cases v with
  | number b => exact ⟨b, rfl⟩
  | _ => cases h

theorem looseEq_eq_equal (h : ∀ a, u ≠ number a) : u.looseEq v = equal u v := by
  cases u with
  | number a => exact (h a rfl).elim
  | _ => rfl

theorem ne_number_of_equal (hu : ∀ a, u ≠ number a) (h : equal u v = true) :
    ∀ a, v ≠ number a := by
  rintro a rfl
  cases u with
  | number b => exact hu b rfl
  | _ => cases h

/-- Values that are integers and collide. -/
def Collides (u w : Json) : Prop :=
  ∃ a b : Number, u = .number a ∧ w = .number b ∧ a.Collides b

theorem WellKeyed.looseEq_refl (h : v.WellKeyed) : v.looseEq v = true := by
  by_cases hv : ∃ a, v = .number a
  · obtain ⟨a, rfl⟩ := hv
    exact looseEq_number_iff.mpr ⟨rfl, fun _ _ => rfl⟩
  · rw [looseEq_eq_equal fun a ha => hv ⟨a, ha⟩]
    exact h.equal_refl

theorem WellKeyed.looseEq_symm (hu : u.WellKeyed) (h : u.looseEq v = true) :
    v.looseEq u = true := by
  by_cases hnumber : ∃ a, u = .number a
  · obtain ⟨a, rfl⟩ := hnumber
    obtain ⟨b, rfl⟩ := exists_number_of_looseEq h
    obtain ⟨hround, hexact⟩ := looseEq_number_iff.mp h
    exact looseEq_number_iff.mpr ⟨hround.symm, fun hb ha => (hexact ha hb).symm⟩
  · have hu' : ∀ a, u ≠ .number a := fun a ha => hnumber ⟨a, ha⟩
    rw [looseEq_eq_equal hu'] at h
    rw [looseEq_eq_equal (ne_number_of_equal hu' h)]
    exact hu.equal_symm h

theorem WellKeyed.looseEq_comm (hu : u.WellKeyed) (hv : v.WellKeyed) :
    u.looseEq v = v.looseEq u :=
  Bool.eq_iff_iff.mpr ⟨hu.looseEq_symm, hv.looseEq_symm⟩

/-- Whatever lies between two values, they are loosely equal unless they collide. -/
theorem WellKeyed.looseEq_trans_iff (hu : u.WellKeyed) (huv : u.looseEq v = true)
    (hvw : v.looseEq w = true) : u.looseEq w = true ↔ ¬ u.Collides w := by
  by_cases hnumber : ∃ a, u = .number a
  · obtain ⟨a, rfl⟩ := hnumber
    obtain ⟨b, rfl⟩ := exists_number_of_looseEq huv
    obtain ⟨c, rfl⟩ := exists_number_of_looseEq hvw
    have hround := (looseEq_number_iff.mp huv).1.trans (looseEq_number_iff.mp hvw).1
    rw [looseEq_number_iff, and_iff_right hround]
    constructor
    · rintro heq ⟨_, _, ⟨⟩, ⟨⟩, h⟩
      exact h.differ (heq h.left h.right)
    · intro hcollide ha hc
      by_contra hne
      rw [ha.rounded, hc.rounded] at hround
      exact hcollide ⟨a, c, rfl, rfl, ha, hc, hne, Binary64.cmp_eq_eq_iff.mpr hround⟩
  · have hu' : ∀ a, u ≠ .number a := fun a ha => hnumber ⟨a, ha⟩
    rw [looseEq_eq_equal hu'] at huv
    rw [looseEq_eq_equal (ne_number_of_equal hu' huv)] at hvw
    rw [looseEq_eq_equal hu']
    refine iff_of_true (hu.equal_trans huv hvw) ?_
    rintro ⟨a, _, rfl, -⟩
    exact hu' a rfl

/-- An integer with a point is loosely equal to both sides of a collision. -/
theorem Collides.exists_between (h : u.Collides w) : ∃ v : Json, v.WellKeyed ∧
    u.looseEq v = true ∧ v.looseEq w = true := by
  obtain ⟨a, b, rfl, rfl, h⟩ := h
  have hround : a.rounded = b.rounded := by
    rw [h.left.rounded, h.right.rounded]
    exact Binary64.cmp_eq_eq_iff.mp h.oneDouble
  refine ⟨.number a.withPoint, .number, looseEq_number_iff.mpr ⟨?_, ?_⟩,
    looseEq_number_iff.mpr ⟨?_, ?_⟩⟩
  · exact h.left.rounded_withPoint.symm
  · exact fun _ hpoint => (a.withPoint_not_isExact hpoint).elim
  · exact h.left.rounded_withPoint.trans hround
  · exact fun hpoint => (a.withPoint_not_isExact hpoint).elim

end Json

namespace Validator
variable {x : Validator} {candidates : List Json} {u v w : Json}

/-- The values that a validator of equality or membership looks for. -/
def candidates? : Validator → Option (List Json)
  | equality _ expected => some [expected]
  | membership _ values => some values
  | _ => none

/-- Values that are loosely equal are judged alike unless a candidate collides with one of them. -/
theorem judge_eq_of_looseEq (hx : x.candidates? = some candidates)
    (keyed : ∀ e ∈ candidates, e.WellKeyed) (hu : u.WellKeyed) (hv : v.WellKeyed)
    (huv : u.looseEq v = true)
    (apart : ∀ e ∈ candidates, ¬ e.Collides u ∧ ¬ e.Collides v) : x.judge u = x.judge v := by
  have hvu := hu.looseEq_symm huv
  have alike : ∀ e ∈ candidates, e.looseEq u = e.looseEq v := by
    intro e he
    rw [Bool.eq_iff_iff]
    constructor
    · intro h
      exact ((keyed e he).looseEq_trans_iff h huv).mpr (apart e he).2
    · intro h
      exact ((keyed e he).looseEq_trans_iff h hvu).mpr (apart e he).1
  cases x with
  | equality negated expected =>
    cases hx
    have he : expected.WellKeyed := keyed expected List.mem_cons_self
    rw [judge, judge, hu.looseEq_comm he, hv.looseEq_comm he, alike expected List.mem_cons_self]
  | membership accepted values =>
    cases hx
    have hany : candidates.any (·.looseEq u) = candidates.any (·.looseEq v) := by
      rw [Bool.eq_iff_iff, List.any_eq_true, List.any_eq_true]
      exact exists_congr fun e => and_congr_right fun he => by rw [alike e he]
    rw [judge, judge, hany]
  | _ => cases hx

/-- Between two integers that collide there is a number that is taken for both, though neither is
taken for the other. -/
theorem judge_of_collides (h : u.Collides w) : u.looseEq w = false ∧
    ∃ v : Json, v.WellKeyed ∧ u.looseEq v = true ∧ v.looseEq w = true ∧
      (equality false w).judge v = .ok true ∧ (equality false w).judge u = .ok false := by
  obtain ⟨v, hv, huv, hvw⟩ := h.exists_between
  have hu : u.WellKeyed := by
    obtain ⟨a, _, rfl, -⟩ := h
    exact .number
  have huw : u.looseEq w = false := by
    rw [← Bool.not_eq_true, hu.looseEq_trans_iff huv hvw]
    exact not_not.mpr h
  exact ⟨huw, v, hv, huv, hvw, by rw [judge, hvw]; rfl, by rw [judge, huw]; rfl⟩

end Validator

/-- Loose equality is reflexive and symmetric. It fails to be transitive between two values exactly
if they are integers that collide, and there it does: a number that equals both passes for one where
the other does not. Up to 2^53 no integers collide, and where none does, validators judge values
that are loosely equal alike. -/
theorem loose_equality_fails_at_collisions (u v w : Json) (hu : u.WellKeyed) (hv : v.WellKeyed) :
    u.looseEq u = true ∧ u.looseEq v = v.looseEq u ∧
    (u.looseEq v = true → v.looseEq w = true → (u.looseEq w = true ↔ ¬ u.Collides w)) ∧
    (u.Collides w → u.looseEq w = false ∧
      ∃ x : Json, x.WellKeyed ∧ u.looseEq x = true ∧ x.looseEq w = true ∧
        (Validator.equality false w).judge x = .ok true ∧
        (Validator.equality false w).judge u = .ok false) ∧
    (u.Collides w → ∃ a b : Number, u = .number a ∧ w = .number b ∧
      (pow2 53 < a.integer.natAbs ∨ pow2 53 < b.integer.natAbs)) ∧
    (u.looseEq v = true → ∀ (x : Validator) (candidates : List Json),
      x.candidates? = some candidates → (∀ e ∈ candidates, e.WellKeyed) →
      (∀ e ∈ candidates, ¬ e.Collides u ∧ ¬ e.Collides v) → x.judge u = x.judge v) := by
  refine ⟨hu.looseEq_refl, hu.looseEq_comm hv, hu.looseEq_trans_iff, Validator.judge_of_collides,
    ?_, ?_⟩
  · rintro ⟨a, b, ha, hb, h⟩
    exact ⟨a, b, ha, hb, h.large⟩
  · intro huv x candidates hx keyed apart
    exact Validator.judge_eq_of_looseEq hx keyed hu hv huv apart

/-- The least natural number that no double is collides with the one before it. -/
theorem first_collision_of_integers :
    let even : Number := .ofNat 9007199254740992
    let odd : Number := .ofNat 9007199254740993
    let between : Json := .number ⟨false, 9007199254740992, some ⟨0, []⟩, none⟩
    let small : Validator := .membership true [.number (.ofNat 3), .string "a"]
    even.Collides odd ∧ pow2 53 < odd.integer.natAbs ∧
      (Json.number even).looseEq between = true ∧ between.looseEq (.number odd) = true ∧
      (Json.number even).looseEq (.number odd) = false ∧
      (∃ v : Json, (Validator.equality false (.number odd)).judge v = .ok true ∧
        (Validator.equality false (.number odd)).judge (.number even) = .ok false) ∧
      small.judge (.number even) = small.judge between := by
  intro even odd between small
  have collides : even.Collides odd := ⟨⟨rfl, by decide⟩, ⟨rfl, by decide⟩, by decide, by
    decide +kernel⟩
  have heven : (Json.number even).looseEq between = true := by decide +kernel
  have hodd : between.looseEq (.number odd) = true := by decide +kernel
  have hcollides : (Json.number even).Collides (.number odd) := ⟨even, odd, rfl, rfl, collides⟩
  obtain ⟨-, -, -, collision, large, validators⟩ := loose_equality_fails_at_collisions
    (.number even) between (.number odd) .number .number
  obtain ⟨hopposed, v, -, -, -, accepted, rejected⟩ := collision hcollides
  have hlarge : pow2 53 < odd.integer.natAbs := by
    obtain ⟨_, _, heq, hodd, h⟩ := large hcollides
    rw [← Json.number.inj heq, ← Json.number.inj hodd] at h
    rcases h with h | h
    · exact absurd h (by decide)
    · exact h
  have keyed : ∀ e ∈ [Json.number (.ofNat 3), .string "a"], e.WellKeyed := by
    simp [Json.WellKeyed.number, Json.WellKeyed.string]
  have apart : ∀ e ∈ [Json.number (.ofNat 3), .string "a"],
      ¬ e.Collides (.number even) ∧ ¬ e.Collides between := by
    intro e he
    constructor
    · rintro ⟨a, b, rfl, ⟨⟩, h⟩
      obtain rfl : a = .ofNat 3 := by simpa using he
      rcases h.large with h | h <;> exact absurd h (by decide)
    · rintro ⟨_, b, -, hb, h⟩
      have hintegral := h.right.1
      rw [← Json.number.inj hb] at hintegral
      cases hintegral
  have alike := validators heven small _ rfl keyed apart
  exact ⟨collides, hlarge, heven, hodd, hopposed, ⟨v, accepted, rejected⟩, alike⟩

end Conform
