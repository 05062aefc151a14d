import Conform.Proofs.Leaves

/-!
The one arithmetic fault that validation can come to: the quotient of the least 128-bit integer by
-1 does not fit, so there is no remainder either.
-/

namespace Conform
open Outcome

variable {d : Json} {s : Schema} {w : Validator} {u : Json}

/-- A builtin schema comes to the fault exactly where a document brings it to such a division. -/
theorem Schema.validate_eq_remainder_iff (hs : s.toProperty.IsBuiltin) {document : Json} :
    s.validate document = .error .remainder ↔
      ∃ w u, Consults s.toProperty document w u ∧ w.Overflows u := by
  rw [Schema.validate_eq_error_iff]
  constructor
  · rintro ⟨w, u, hc, he⟩
    obtain ⟨l, hl, hw, -, -⟩ := hc.exists_occurs
    exact ⟨w, u, hc, Validator.overflows_of_judge ((hs l hl).2 w hw) he⟩
  · rintro ⟨w, u, hc, ho⟩
    exact ⟨w, u, hc, Validator.judge_of_overflows ho⟩

/-- Whatever a definition says and a document holds, no division that validation asks for is by
zero. There is an arithmetic fault exactly when one of them divides the least integer by -1. -/
theorem remainder_fault_iff_overflow (h : Definition.schema .builtin d = .ok s) (document : Json) :
    (∀ negated divisor u, Consults s.toProperty document (.divisibility negated divisor) u →
      (Numeric.ofNumber divisor).isZero = false) ∧
    (s.validate document = .error .remainder ↔
      ∃ negated divisor u, Consults s.toProperty document (.divisibility negated divisor) u ∧
        Numeric.ofNumber divisor = .int (-1) ∧
        Numeric.ofJson? u = some (.int Numeric.minInt)) := by
  have hs := Definition.isBuiltin_of_schema h
  constructor
  · intro negated divisor u hc
    obtain ⟨l, hl, hw, -, -⟩ := hc.exists_occurs
    exact (hs l hl).2 _ hw
  · rw [Schema.validate_eq_remainder_iff hs]
    constructor
    · rintro ⟨w, u, hc, negated, divisor, rfl, hd, hu⟩
      exact ⟨negated, divisor, u, hc, hd, hu⟩
    · rintro ⟨negated, divisor, u, hc, hd, hu⟩
      exact ⟨_, u, hc, negated, divisor, rfl, hd, hu⟩

set_option maxRecDepth 4000 in
/-- Arrays of integers divisible by -1 are accepted as a schema. -/
theorem least_integer_by_minus_one :
    let units : Leaf := ⟨"integer", .integer, true, false, [.divisibility false (.ofInt (-1))]⟩
    let document : Json := .array [.number (.ofInt Numeric.minInt)]
    Definition.schema .builtin (.object [("type", .string "array"), ("element", .object
        [("type", .string "integer"), ("divisible_by", .number (.ofInt (-1)))])]) =
      .ok (Schema.listOf units) ∧
    (Schema.listOf units).validate document = .error .remainder ∧
    ∃ negated divisor u, Consults (Schema.listOf units).toProperty document
      (.divisibility negated divisor) u ∧ Numeric.ofNumber divisor = .int (-1) ∧
        Numeric.ofJson? u = some (.int Numeric.minInt) := by
  intro units document
  have accepted : Definition.schema .builtin (.object [("type", .string "array"), ("element",
      .object [("type", .string "integer"), ("divisible_by", .number (.ofInt (-1)))])]) =
      .ok (Schema.listOf units) := rfl
  have faults : (Schema.listOf units).validate document = .error .remainder := rfl
  exact ⟨accepted, faults, (remainder_fault_iff_overflow accepted document).2.mp faults⟩

end Conform
