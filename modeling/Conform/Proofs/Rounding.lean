import Conform.Proofs.Exactness

/-!
Integers rounded to doubles. Up to 2^53 nothing is lost, and a decimal point after an integer does
not change what it is rounded to.
-/

namespace Conform

theorem pow2_pos (k : Nat) : 0 < pow2 k := Nat.two_pow_pos k

theorem pow2_add (j k : Nat) : pow2 (j + k) = pow2 j * pow2 k := Nat.pow_add 2 j k

theorem pow2_dvd_pow2 {j k : Nat} (h : j ≤ k) : pow2 j ∣ pow2 k := Nat.pow_dvd_pow 2 h

theorem pow2_lt_pow2 {j k : Nat} (h : j < k) : pow2 j < pow2 k :=
  Nat.pow_lt_pow_right (by decide) h

theorem Number.natAbs_integer (n : Number) : n.integer.natAbs = n.whole := by
  unfold integer
  split <;> omega

namespace Binary64
variable {num den c n k : Nat} {i j : Int} {x y : Binary64}

theorem roundDiv_of_dvd (h : den ∣ num) : roundDiv num den = num / den := by
  have hmod : num % den = 0 := Nat.mod_eq_zero_of_dvd h
  rcases Nat.eq_zero_or_pos den with rfl | hpos
  · obtain rfl := Nat.zero_dvd.mp h
    rfl
  · unfold roundDiv
    rw [hmod]
    exact if_pos hpos

/-- Only the quotient matters. -/
theorem roundDiv_mul_left (hc : 0 < c) : roundDiv (c * num) (c * den) = roundDiv num den := by
  have below : 2 * (c * (num % den)) < c * den ↔ 2 * (num % den) < den := by
    rw [Nat.mul_left_comm, Nat.mul_lt_mul_left hc]
  have above : c * den < 2 * (c * (num % den)) ↔ den < 2 * (num % den) := by
    rw [Nat.mul_left_comm, Nat.mul_lt_mul_left hc]
  simp only [roundDiv, Nat.mul_div_mul_left num den hc, Nat.mul_mod_mul_left, below, above]

theorem roundUnits_mul_left (hc : 0 < c) : roundUnits (c * num) (c * den) = roundUnits num den := by
  simp only [roundUnits, Nat.mul_div_mul_left num den hc, Nat.mul_assoc, roundDiv_mul_left hc]

/-- A multiple of its last place stays as it is. -/
theorem roundUnits_of_dvd (h : pow2 (num.log2 - 52) ∣ num) : roundUnits num 1 = num := by
  have hround : roundUnits num 1 =
      roundDiv num (pow2 (num.log2 - 52)) * pow2 (num.log2 - 52) := by
    simp only [roundUnits, Nat.div_one, Nat.one_mul]
  rw [hround, roundDiv_of_dvd h, Nat.div_mul_cancel h]

/-- Up to 2^53 the last place of an integer is no more than one. -/
theorem roundUnits_of_le (h : n ≤ pow2 53) : roundUnits (n * pow2 k) 1 = n * pow2 k := by
  refine roundUnits_of_dvd ?_
  rcases Nat.eq_zero_or_pos n with rfl | hpos
  · rw [Nat.zero_mul]
    exact Nat.dvd_zero _
  · rcases Nat.lt_or_eq_of_le h with hlt | rfl
    · have hne : n * pow2 k ≠ 0 := Nat.ne_of_gt (Nat.mul_pos hpos (pow2_pos k))
      have hlog : (n * pow2 k).log2 < 53 + k := by
        rw [Nat.log2_lt hne, Nat.pow_add]
        exact Nat.mul_lt_mul_of_pos_right hlt (pow2_pos k)
      exact Nat.dvd_mul_left_of_dvd (pow2_dvd_pow2 (by omega)) n
    · have hlog : (pow2 (53 + k)).log2 = 53 + k := Nat.log2_two_pow
      rw [← pow2_add, hlog]
      exact pow2_dvd_pow2 (by omega)

/-- The number of units with its sign, so that zero has one value, or the sign of an infinity. -/
def value : Binary64 → Bool ⊕ Int
  | finite negative units => .inr (if negative then -(units : Int) else units)
  | infinite negative => .inl negative

theorem cmp_eq_eq_iff : x.cmp y = .eq ↔ x.value = y.value := by
  cases x with
  | finite s m =>
    cases y with
    | finite t n => simp only [cmp, value, Int.compare_eq_eq, Sum.inr.injEq]
    | infinite t => cases t <;> simp [cmp, value]
  | infinite s =>
    cases y with
    | finite t n => cases s <;> simp [cmp, value]
    | infinite t => cases s <;> cases t <;> decide

theorem ofUnits_of_lt (negative : Bool) (h : roundUnits num den < overflow) :
    ofUnits negative num den = finite negative (roundUnits num den) := by
  simp only [ofUnits, if_pos h]

theorem ofUnits_mul_left (negative : Bool) (hc : 0 < c) :
    ofUnits negative (c * num) (c * den) = ofUnits negative num den := by
  simp only [ofUnits, roundUnits_mul_left hc]

theorem value_ofUnits_zero (negative : Bool) (den : Nat) :
    (ofUnits negative 0 den).value = .inr 0 := by
  have hround : roundUnits 0 den = 0 := by simp [roundUnits, roundDiv_of_dvd]
  have hover : roundUnits 0 den < overflow := by
    rw [hround, overflow]
    exact pow2_pos _
  rw [ofUnits_of_lt negative hover, hround]
  cases negative <;> rfl

/-- A double keeps the sign of what it is rounded from. -/
theorem value_ofInt_integer (a : Number) :
    (ofInt a.integer).value = (ofUnits a.negative (a.whole * pow2 1074) 1).value := by
  rw [ofInt, a.natAbs_integer]
  rcases Nat.eq_zero_or_pos a.whole with hzero | hpos
  · rw [hzero, Nat.zero_mul, value_ofUnits_zero, value_ofUnits_zero]
  · have hsign : decide (a.integer < 0) = a.negative := by
      unfold Number.integer
      cases a.negative with
      | false => simp
      | true => simpa using hpos
    rw [hsign]

theorem value_ofInt_of_le (h : i.natAbs ≤ pow2 53) :
    (ofInt i).value = .inr (i * (pow2 1074 : Nat)) := by
  have hround : roundUnits (i.natAbs * pow2 1074) 1 = i.natAbs * pow2 1074 := roundUnits_of_le h
  have hover : roundUnits (i.natAbs * pow2 1074) 1 < overflow := by
    rw [hround]
    refine Nat.lt_of_le_of_lt (Nat.mul_le_mul_right (pow2 1074) h) ?_
    rw [← pow2_add, overflow]
    exact pow2_lt_pow2 (by decide)
  rw [ofInt, ofUnits_of_lt _ hover, hround]
  simp only [value, Int.natCast_mul, decide_eq_true_eq]
  generalize (pow2 1074 : Int) = p
  rcases Int.lt_or_le i 0 with hneg | hpos
  · rw [if_pos hneg, ← Int.neg_mul]
    congr 2
    omega
  · rw [if_neg (Int.not_lt.mpr hpos)]
    congr 2
    omega

/-- Integers up to 2^53 are different doubles. -/
theorem eq_of_value_ofInt (hi : i.natAbs ≤ pow2 53) (hj : j.natAbs ≤ pow2 53)
    (h : (ofInt i).value = (ofInt j).value) : i = j := by
  rw [value_ofInt_of_le hi, value_ofInt_of_le hj, Sum.inr.injEq] at h
  have hne : (pow2 1074 : Int) ≠ 0 := Int.natCast_ne_zero.mpr (Nat.ne_of_gt (pow2_pos 1074))
  exact Int.eq_of_mul_eq_mul_right hne h

end Binary64

namespace Number
variable {a : Number}

/-- The integer of a number with a zero after a point. -/
def withPoint (a : Number) : Number := ⟨a.negative, a.whole, some ⟨Digits.zero, []⟩, none⟩

theorem withPoint_not_isExact (a : Number) : ¬ a.withPoint.IsExact := by
  rintro ⟨⟨⟩, -⟩

/-- An integer of at most 128 bits has no more than 40 digits. -/
theorem IsExact.whole_lt (h : a.IsExact) : a.whole < pow10 39 := by
  have hleast : -(pow10 39 : Int) < IntegerRange.int128.least := by decide
  have hgreatest : IntegerRange.int128.greatest < (pow10 39 : Int) := by decide
  obtain ⟨-, hl, hg⟩ := h
  have hlower := Int.lt_of_lt_of_le hleast hl
  have hupper := Int.lt_of_le_of_lt hg hgreatest
  have := a.natAbs_integer
  omega

/-- An integer is rounded to the same double with a point and without. -/
theorem IsExact.value_withPoint (h : a.IsExact) :
    (Binary64.ofNumber a.withPoint).value = (Binary64.ofInt a.integer).value := by
  have hdecimal : Binary64.ofNumber a.withPoint =
      Binary64.ofDecimal a.negative (10 * a.whole) (-1) := rfl
  rw [hdecimal, Binary64.value_ofInt_integer]
  rcases Nat.eq_zero_or_pos a.whole with hzero | hpos
  · rw [hzero, Nat.zero_mul, Binary64.value_ofUnits_zero]
    cases a.negative <;> rfl
  · have hdigits : (Nat.toDigits 10 (10 * a.whole)).length ≤ 40 := by
      rw [Nat.length_toDigits_le_iff (by decide) (by decide)]
      exact Nat.mul_lt_mul_of_pos_left h.whole_lt (by decide)
    have hlow : ¬ (10 * a.whole = 0 ∨
        ((Nat.toDigits 10 (10 * a.whole)).length : Int) + -1 < -330) := by omega
    have hhigh : ¬ 330 < ((Nat.toDigits 10 (10 * a.whole)).length : Int) + -1 := by omega
    have hunits : Binary64.ofDecimal a.negative (10 * a.whole) (-1) =
        Binary64.ofUnits a.negative (10 * a.whole * pow10 0 * pow2 1074) (pow10 1) := by
      simp only [Binary64.ofDecimal, if_neg hlow, if_neg hhigh]
      rfl
    have hnum : 10 * a.whole * pow10 0 * pow2 1074 = 10 * (a.whole * pow2 1074) := by
      rw [Nat.mul_assoc 10 a.whole, Nat.mul_assoc 10]
      congr 2
      exact Nat.mul_one _
    have hten : pow10 1 = 10 * 1 := rfl
    rw [hunits, hnum, hten, Binary64.ofUnits_mul_left _ (by decide)]

end Number

end Conform
