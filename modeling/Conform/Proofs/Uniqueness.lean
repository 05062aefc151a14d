import Mathlib.Data.List.Nodup
import Conform.Proofs.ArrayReports

/-!
Arrays of integers without repetitions. Numbers are told apart by how they are spelled, and zero is
the one integer that is spelled in two ways.
-/

namespace Conform
open Outcome

theorem head?_toList_append {s : String} {c : Char} (h : s.toList.head? = some c) (t : String) :
    (s ++ t).toList.head? = some c := by
  rw [String.toList_append, List.head?_append, h]
  rfl

/-- No other message reads like the one on repeated elements. -/
theorem Message.eq_duplicateItems_of_text {m : Message}
    (h : m.text = "duplicate items are not allowed") : m = .duplicateItems := by
  have other {t : String} (ht : t.toList.head? = some 'e') :
      t ≠ "duplicate items are not allowed" := by
    rintro rfl
    exact absurd ht (by decide)
  cases m with
  | duplicateItems => rfl
  | tooFew =>
    have least : "expected at least ".toList.head? = some 'e' := by decide
    exact absurd h (other (head?_toList_append (head?_toList_append (head?_toList_append
      (head?_toList_append least _) _) _) _))
  | tooMany =>
    have most : "expected at most ".toList.head? = some 'e' := by decide
    exact absurd h (other (head?_toList_append (head?_toList_append (head?_toList_append
      (head?_toList_append most _) _) _) _))
  | _ => exact absurd h (by decide)

variable {a : ArraySchema Property} {items : List Json}

/-- No other report on an array looks like the one on repeated elements. -/
theorem arrayErrors_eq_duplicates_iff :
    Property.arrayErrors a (.array items) = .ok Message.duplicateItems.errors ↔
      a.unique = true ∧ ¬ Distinct items := by
  have text_of {t : String} (h : Message.duplicateItems.errors = [("base", .messages [t])]) :
      t = "duplicate items are not allowed" := by
    injection h with entry
    injection entry with _ messages
    injection messages with texts
    injection texts with text
    exact text.symm
  rw [Property.arrayErrors_eq_iff_reports]
  constructor
  · intro report
    generalize ho : Except.ok Message.duplicateItems.errors = o at report
    cases report with
    | duplicates unique repeated => exact ⟨unique, repeated⟩
    | @tooFew least =>
      cases Message.eq_duplicateItems_of_text (m := .tooFew least items.length)
        (text_of (Except.ok.inj ho))
    | @tooMany most =>
      cases Message.eq_duplicateItems_of_text (m := .tooMany most items.length)
        (text_of (Except.ok.inj ho))
    | @element i =>
      injection Except.ok.inj ho with entry
      exact (toString_ne_baseKey i (congrArg Prod.fst entry).symm).elim
    | fault => cases ho
    | clean => cases ho
  · rintro ⟨unique, repeated⟩
    exact .duplicates unique repeated

namespace Number
variable {m n : Number} {numbers : List Number}

def zero : Number := ⟨false, 0, none, none⟩

/-- Zero once more, with a sign. -/
def minusZero : Number := ⟨true, 0, none, none⟩

/-- One integer is spelled in one way, unless it is zero. -/
theorem integer_eq_iff (hm : m.isIntegral = true) (hn : n.isIntegral = true) :
    m.integer = n.integer ↔ m = n ∨ m = zero ∧ n = minusZero ∨ m = minusZero ∧ n = zero := by
  obtain ⟨negative, whole, fraction, exponent⟩ := m
  obtain ⟨negative', whole', fraction', exponent'⟩ := n
  simp only [isIntegral, Bool.and_eq_true, Option.isNone_iff_eq_none] at hm hn
  obtain ⟨rfl, rfl⟩ := hm
  obtain ⟨rfl, rfl⟩ := hn
  cases negative <;> cases negative' <;>
    simp only [integer, zero, minusZero, mk.injEq, reduceCtorEq, if_true, if_false, true_and,
      and_true, false_and, and_false, or_false, false_or] <;> omega

/-- Spellings differ, but integers do not all, exactly if both spellings of zero are there. -/
theorem nodup_integers_iff (integral : ∀ n ∈ numbers, n.isIntegral = true) :
    (numbers.map integer).Nodup ↔
      numbers.Nodup ∧ ¬ (zero ∈ numbers ∧ minusZero ∈ numbers) := by
  constructor
  · intro nodup
    refine ⟨nodup.of_map, ?_⟩
    rintro ⟨hzero, hminus⟩
    have same : zero = minusZero := List.inj_on_of_nodup_map nodup hzero hminus rfl
    cases same
  · rintro ⟨nodup, notBoth⟩
    refine nodup.map_on fun m hm n hn heq => ?_
    rcases (integer_eq_iff (integral m hm) (integral n hn)).mp heq with
      rfl | ⟨rfl, rfl⟩ | ⟨rfl, rfl⟩
    · rfl
    · exact (notBoth ⟨hm, hn⟩).elim
    · exact (notBoth ⟨hn, hm⟩).elim

/-- Numbers are equal as values when they are spelled alike. -/
theorem distinct_iff_nodup : Distinct (numbers.map .number) ↔ numbers.Nodup := by
  have beq_number (m n : Number) : (Json.number m == Json.number n) = false ↔ m ≠ n :=
    beq_eq_false_iff_ne (a := m) (b := n)
  unfold Distinct
  simp only [List.getElem_map, beq_number, List.length_map]
  rw [List.nodup_iff_pairwise_ne, List.pairwise_iff_getElem]
  exact ⟨fun h i j _ hj hij => h i j hij hj, fun h i j hij hj => h i j (by omega) hj hij⟩

end Number

/-- Where elements have to be unique, an array of integers is said to repeat one exactly if a
spelling is repeated. This tells whether an integer is repeated, unless the only integer to be
repeated is zero, spelled once with a sign and once without. -/
theorem repeated_integers_reported_but_zero (unique : a.unique = true) {numbers : List Number}
    (integral : ∀ n ∈ numbers, n.isIntegral = true) :
    let reported := Property.arrayErrors a (.array (numbers.map .number)) =
      .ok [("base", .messages ["duplicate items are not allowed"])]
    (reported ↔ ¬ numbers.Nodup) ∧
      ((reported ↔ ¬ (numbers.map Number.integer).Nodup) ↔
        ¬ (numbers.Nodup ∧ .zero ∈ numbers ∧ .minusZero ∈ numbers)) := by
  intro reported
  have spelled : reported ↔ ¬ numbers.Nodup := by
    rw [← Number.distinct_iff_nodup]
    exact arrayErrors_eq_duplicates_iff.trans (and_iff_right unique)
  refine ⟨spelled, ?_⟩
  rw [spelled, Number.nodup_integers_iff integral]
  tauto

/-- Zero is repeated with a sign, and all elements are taken for different ones; in a longer array
seven is spelled twice, which is reported. -/
theorem zero_with_sign_passes_for_another :
    let a : ArraySchema Property := ⟨.single (.leaf ⟨"integer", .integer, true, false, []⟩), true,
      none, none, true, false⟩
    let numbers : List Number := [.ofNat 7, .zero, .minusZero]
    let more : List Number := [.ofNat 7, .zero, .minusZero, .ofNat 7]
    (∀ n ∈ more, n.isIntegral = true) ∧ numbers.Nodup ∧
      ¬ (numbers.map Number.integer).Nodup ∧
      Property.arrayErrors a (.array (numbers.map .number)) = .ok [] ∧
      Property.arrayErrors a (.array (more.map .number)) =
        .ok [("base", .messages ["duplicate items are not allowed"])] := by
  intro a numbers more
  have integral : ∀ n ∈ more, n.isIntegral = true := by decide
  obtain ⟨reported, -⟩ := repeated_integers_reported_but_zero (a := a) rfl integral
  exact ⟨integral, by decide, by decide, rfl, reported.mpr (by decide)⟩

end Conform
