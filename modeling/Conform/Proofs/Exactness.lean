import Conform.Proofs.Judgement

/-!
Exact comparisons. An integer of at most 128 bits keeps its value whichever way its spelling is
read, so validators compare it, like a length, without rounding.
-/

namespace Conform
open Outcome

/-- A range of machine integers. -/
structure IntegerRange where
  least : Int
  greatest : Int

namespace IntegerRange

def int64 : IntegerRange := ⟨-(pow2 63 : Int), (pow2 63 : Int) - 1⟩

def word64 : IntegerRange := ⟨0, (pow2 64 : Int) - 1⟩

def int128 : IntegerRange := ⟨Numeric.minInt, Numeric.maxInt⟩

def Contains (r : IntegerRange) (i : Int) : Prop := r.least ≤ i ∧ i ≤ r.greatest

instance (r : IntegerRange) (i : Int) : Decidable (r.Contains i) :=
  inferInstanceAs (Decidable (_ ∧ _))

/-- The number that a text of digits spells. -/
def digits? (cs : List Char) : Option Nat :=
  if cs ≠ [] ∧ cs.all Char.isDigit = true then some (Nat.ofDigitChars 10 cs 0) else none

/-- The integer that a text spells. A range without negative integers has no minus sign, not even
before a zero. -/
def integer? (r : IntegerRange) : List Char → Option Int
  | '-' :: cs => if r.least < 0 then (digits? cs).map fun n => -(n : Int) else none
  | '+' :: cs => (digits? cs).map Int.ofNat
  | cs => (digits? cs).map Int.ofNat

/-- Reads a text as an integer of the range. -/
def read? (r : IntegerRange) (cs : List Char) : Option Int :=
  (r.integer? cs).filter fun i => decide (r.Contains i)

variable {r : IntegerRange} {cs : List Char}

theorem digits?_toDigits (n : Nat) : digits? (Nat.toDigits 10 n) = some n := by
  have hdigits : (Nat.toDigits 10 n).all Char.isDigit = true :=
    List.all_eq_true.mpr fun c hc => Nat.isDigit_of_mem_toDigits (by decide) (by decide) hc
  rw [digits?, if_pos ⟨Nat.toDigits_ne_nil, hdigits⟩,
    Nat.ofDigitChars_toDigits (by decide) (by decide)]

theorem digits?_eq_none {c : Char} (hc : c ∈ cs) (h : c.isDigit = false) : digits? cs = none := by
  refine if_neg ?_
  rintro ⟨-, hall⟩
  rw [List.all_eq_true.mp hall c hc] at h
  cases h

/-- Digits have no sign in front. -/
theorem integer?_toDigits (n : Nat) : r.integer? (Nat.toDigits 10 n) = some (n : Int) := by
  have hsigns {c : Char} {cs : List Char} (h : Nat.toDigits 10 n = c :: cs) : c.isDigit = true :=
    Nat.isDigit_of_mem_toDigits (b := 10) (n := n) (by decide) (by decide) (h ▸ List.mem_cons_self)
  unfold integer?
  split
  · rename_i h
    cases hsigns h
  · rename_i h
    cases hsigns h
  · rw [digits?_toDigits]
    rfl

/-- A point or an exponent is in no integer. -/
theorem integer?_eq_none {c : Char} (hc : c ∈ cs) (h : c = '.' ∨ c = 'e') :
    r.integer? cs = none := by
  have hdigit : c.isDigit = false := by rcases h with rfl | rfl <;> rfl
  have htail {d : Char} {ds : List Char} (hd : d = '-' ∨ d = '+') (hc : c ∈ d :: ds) :
      digits? ds = none := by
    rcases List.mem_cons.mp hc with rfl | hc
    · rcases h with rfl | rfl <;> simp at hd
    · exact digits?_eq_none hc hdigit
  unfold integer?
  split
  · rw [htail (.inl rfl) hc]
    split <;> rfl
  · rw [htail (.inr rfl) hc]
    rfl
  · rw [digits?_eq_none hc hdigit]
    rfl

/-- The widest range has the integers of the other two. -/
theorem int128_contains {i : Int} (h : int64.Contains i ∨ word64.Contains i) :
    int128.Contains i := by
  have hleast : int128.least ≤ int64.least ∧ int128.least ≤ word64.least := by decide
  have hgreatest : int64.greatest ≤ int128.greatest ∧ word64.greatest ≤ int128.greatest := by decide
  rcases h with ⟨hl, hg⟩ | ⟨hl, hg⟩
  · exact ⟨Int.le_trans hleast.1 hl, Int.le_trans hg hgreatest.1⟩
  · exact ⟨Int.le_trans hleast.2 hl, Int.le_trans hg hgreatest.2⟩

end IntegerRange

namespace Number
open IntegerRange
variable {n : Number} {r : IntegerRange}

/-- An integer of at most 128 bits, written without fraction and exponent. -/
def IsExact (n : Number) : Prop := n.isIntegral = true ∧ int128.Contains n.integer

/-- What is written in a number that is not an integer. -/
def isPointOrExponent (c : Char) : Bool := c = '.' || c = 'e' || c = 'E'

theorem chars_of_isIntegral (h : n.isIntegral = true) :
    n.chars = (if n.negative then ['-'] else []) ++ Nat.toDigits 10 n.whole := by
  obtain ⟨negative, whole, fraction, exponent⟩ := n
  simp only [isIntegral, Bool.and_eq_true, Option.isNone_iff_eq_none] at h
  obtain ⟨rfl, rfl⟩ := h
  exact (List.append_nil _).trans (List.append_nil _)

theorem exists_mem_chars (h : n.isIntegral = false) : ∃ c ∈ n.chars, c = '.' ∨ c = 'e' := by
  obtain ⟨negative, whole, fraction, exponent⟩ := n
  cases fraction with
  | some f =>
    exact ⟨'.', List.mem_append_left _ (List.mem_append_right _ List.mem_cons_self), .inl rfl⟩
  | none =>
    cases exponent with
    | some e => exact ⟨'e', List.mem_append_right _ List.mem_cons_self, .inr rfl⟩
    | none => cases h

theorem any_isPointOrExponent (n : Number) : n.chars.any isPointOrExponent = !n.isIntegral := by
  cases h : n.isIntegral with
  | true =>
    rw [chars_of_isIntegral h, List.any_append]
    have hdigits : (Nat.toDigits 10 n.whole).any isPointOrExponent = false := by
      refine List.any_eq_false.mpr fun c hc hpoint => ?_
      have hdigit := Nat.isDigit_of_mem_toDigits (by decide) (by decide) hc
      simp only [isPointOrExponent, Bool.or_eq_true, decide_eq_true_eq] at hpoint
      rcases hpoint with (rfl | rfl) | rfl <;> cases hdigit
    rw [hdigits]
    cases n.negative <;> rfl
  | false =>
    obtain ⟨c, hc, hpoint⟩ := exists_mem_chars h
    refine List.any_eq_true.mpr ⟨c, hc, ?_⟩
    rcases hpoint with rfl | rfl <;> rfl

theorem integer?_chars (h : n.isIntegral = true) (hsign : r.least < 0) :
    r.integer? n.chars = some n.integer := by
  rw [chars_of_isIntegral h, integer]
  cases n.negative with
  | false => exact integer?_toDigits n.whole
  | true =>
    have hminus : r.integer? ('-' :: Nat.toDigits 10 n.whole) = some (-(n.whole : Int)) := by
      rw [IntegerRange.integer?, if_pos hsign, digits?_toDigits]
      rfl
    exact hminus

/-- Whatever is read from the spelling of an integer is the integer. -/
theorem eq_of_integer?_chars {i : Int} (h : n.isIntegral = true)
    (hi : r.integer? n.chars = some i) : i = n.integer := by
  by_cases hsign : r.least < 0
  · rw [integer?_chars h hsign] at hi
    exact (Option.some.inj hi).symm
  · rw [chars_of_isIntegral h] at hi
    rw [integer]
    cases hn : n.negative with
    | false =>
      rw [hn] at hi
      exact Option.some.inj (hi.symm.trans (integer?_toDigits n.whole))
    | true =>
      rw [hn] at hi
      have hminus : r.integer? ('-' :: Nat.toDigits 10 n.whole) = none := if_neg hsign
      cases hi.symm.trans hminus

theorem of_read?_chars {i : Int} (h : n.isIntegral = true) (hi : r.read? n.chars = some i) :
    i = n.integer ∧ r.Contains n.integer := by
  obtain ⟨hinteger, hrange⟩ := Option.filter_eq_some_iff.mp hi
  obtain rfl := eq_of_integer?_chars h hinteger
  exact ⟨rfl, of_decide_eq_true hrange⟩

theorem read?_chars (h : n.isIntegral = true) (hsign : r.least < 0) :
    r.read? n.chars = if r.Contains n.integer then some n.integer else none := by
  rw [read?, integer?_chars h hsign, Option.filter_some]
  simp only [decide_eq_true_eq]

theorem read?_of_not_isIntegral (h : n.isIntegral = false) : r.read? n.chars = none := by
  obtain ⟨c, hc, hpoint⟩ := exists_mem_chars h
  rw [read?, integer?_eq_none hc hpoint]
  rfl

end Number

namespace Numeric
open IntegerRange
variable {n : Number}

/-- The value of a number by way of its text: an integer of 64 bits, one of 64 bits without sign,
one of 128 bits unless a point or an exponent is written, and otherwise a double. -/
def read (n : Number) : Numeric :=
  let wide := if n.chars.any Number.isPointOrExponent then none else int128.read? n.chars
  match int64.read? n.chars <|> word64.read? n.chars <|> wide with
  | some i => int i
  | none => float (Binary64.ofNumber n)

theorem ofNumber_of_isExact (h : n.IsExact) : ofNumber n = int n.integer := if_pos h

theorem ofNumber_of_not_isExact (h : ¬ n.IsExact) :
    ofNumber n = float (Binary64.ofNumber n) := if_neg h

/-- Each way of reading an integer gives the integer, and the widest range has all of them. -/
theorem read_eq_ofNumber (n : Number) : read n = ofNumber n := by
  cases hi : n.isIntegral with
  | false =>
    have hexact : ¬ n.IsExact := fun h => by simp [h.1] at hi
    rw [ofNumber_of_not_isExact hexact, read, Number.read?_of_not_isIntegral hi,
      Number.read?_of_not_isIntegral hi, Number.any_isPointOrExponent, hi]
    rfl
  | true =>
    have hwide : (if n.chars.any Number.isPointOrExponent then none else int128.read? n.chars) =
        if int128.Contains n.integer then some n.integer else none := by
      rw [Number.any_isPointOrExponent, hi, ← Number.read?_chars hi (r := int128) (by decide)]
      rfl
    have hnarrow {r : IntegerRange} (hr : r = int64 ∨ r = word64) {i : Int}
        (h : r.read? n.chars = some i) : i = n.integer ∧ n.IsExact := by
      obtain ⟨rfl, hrange⟩ := Number.of_read?_chars hi h
      rcases hr with rfl | rfl
      · exact ⟨rfl, hi, int128_contains (.inl hrange)⟩
      · exact ⟨rfl, hi, int128_contains (.inr hrange)⟩
    rw [read, hwide]
    cases h64 : int64.read? n.chars with
    | some i =>
      obtain ⟨rfl, hexact⟩ := hnarrow (.inl rfl) h64
      exact (ofNumber_of_isExact hexact).symm
    | none =>
      cases hword : word64.read? n.chars with
      | some i =>
        obtain ⟨rfl, hexact⟩ := hnarrow (.inr rfl) hword
        exact (ofNumber_of_isExact hexact).symm
      | none =>
        by_cases hrange : int128.Contains n.integer
        · rw [if_pos hrange, ofNumber_of_isExact ⟨hi, hrange⟩]
          rfl
        · rw [if_neg hrange, ofNumber_of_not_isExact fun h => hrange h.2]
          rfl

end Numeric

/-- What a comparison is about: the value of an integer, or how long something is. -/
inductive Measures : Json → Int → Prop where
  | integer {n : Number} (exact : n.IsExact) : Measures (.number n) n.integer
  | characters (s : String) : Measures (.string s) s.length
  | items (items : List Json) : Measures (.array items) items.length
  | entries (fields : List (String × Json)) : Measures (.object fields) fields.length

namespace Comparison

/-- The relation between integers that a comparison stands for. -/
def Holds : Comparison → Int → Int → Prop
  | greaterThan, m, bound => bound < m
  | greaterThanOrEqualTo, m, bound => bound ≤ m
  | lessThan, m, bound => m < bound
  | lessThanOrEqualTo, m, bound => m ≤ bound

theorem accepts_compare_iff (c : Comparison) (m bound : Int) :
    c.accepts (compare m bound) = true ↔ c.Holds m bound := by
  cases c with
  | greaterThan => exact beq_iff_eq.trans Int.compare_eq_gt
  | greaterThanOrEqualTo => exact bne_iff_ne.trans Int.compare_ne_lt
  | lessThan => exact beq_iff_eq.trans Int.compare_eq_lt
  | lessThanOrEqualTo => exact bne_iff_ne.trans Int.compare_ne_gt

end Comparison

namespace Validator
variable {b n d : Number} {bounds : List Number} {v : Json} {m : Int}

/-- The builtin validator of a name is made with a configuration, and its verdict on a value is
the one stated. -/
def Decides (name : String) (config v : Json) (accepted : Prop) : Prop :=
  ∃ w verdict, build name config = .ok w ∧ w.judge v = .ok verdict ∧
    (verdict = true ↔ accepted)

theorem measure?_of_measures (h : Measures v m) : measure? v = some (.int m) := by
  cases h with
  | integer exact => exact congrArg some (Numeric.ofNumber_of_isExact exact)
  | characters | items | entries => rfl

theorem build_comparison (c : Comparison) (b : Number) :
    build c.name (.number b) = .ok (.comparison c b) := by
  cases c <;> rfl

theorem comparison_decides (c : Comparison) (hb : b.IsExact) (hv : Measures v m) :
    Decides c.name (.number b) v (c.Holds m b.integer) := by
  refine ⟨_, c.accepts (compare m b.integer), build_comparison c b, ?_,
    c.accepts_compare_iff m b.integer⟩
  simp only [judge, measure?_of_measures hv, Numeric.ofNumber_of_isExact hb]
  rfl

theorem looseEq_exact_iff (hn : n.IsExact) (hb : b.IsExact) :
    (Json.number n).looseEq (.number b) = true ↔ n.integer = b.integer := by
  rw [Json.looseEq, Numeric.ofNumber_of_isExact hn, Numeric.ofNumber_of_isExact hb, beq_iff_eq]
  exact Int.compare_eq_eq

theorem equality_decides (hb : b.IsExact) (hn : n.IsExact) :
    Decides "equal_to" (.number b) (.number n) (n.integer = b.integer) ∧
      Decides "not_equal_to" (.number b) (.number n) (n.integer ≠ b.integer) := by
  have heq := looseEq_exact_iff hn hb
  refine ⟨⟨.equality false (.number b), _, rfl, rfl, ?_⟩,
    ⟨.equality true (.number b), _, rfl, rfl, ?_⟩⟩
  · rw [bne_iff_ne, Bool.ne_false_iff, heq]
  · exact bne_iff_ne.trans (not_congr heq)

theorem any_looseEq_iff (hbounds : ∀ b ∈ bounds, b.IsExact) (hn : n.IsExact) :
    (bounds.map Json.number).any (·.looseEq (.number n)) = true ↔
      n.integer ∈ bounds.map Number.integer := by
  rw [List.any_map, List.any_eq_true, List.mem_map]
  refine exists_congr fun b => and_congr_right fun hb => ?_
  exact looseEq_exact_iff (hbounds b hb) hn

theorem membership_decides (hbounds : ∀ b ∈ bounds, b.IsExact) (hn : n.IsExact) :
    Decides "accepted_values" (.array (bounds.map .number)) (.number n)
        (n.integer ∈ bounds.map Number.integer) ∧
      Decides "rejected_values" (.array (bounds.map .number)) (.number n)
        (n.integer ∉ bounds.map Number.integer) := by
  have hmem := any_looseEq_iff hbounds hn
  refine ⟨⟨.membership true (bounds.map .number), _, rfl, rfl, ?_⟩,
    ⟨.membership false (bounds.map .number), _, rfl, rfl, ?_⟩⟩
  · rw [beq_iff_eq, ← hmem]
  · rw [beq_iff_eq, ← hmem, Bool.not_eq_true]

theorem isMultipleOf?_int {a b : Int} (hb : b ≠ 0) (h : ¬ (a = Numeric.minInt ∧ b = -1)) :
    (Numeric.int a).isMultipleOf? (.int b) = some (decide (b ∣ a)) := by
  rw [Numeric.isMultipleOf?, if_neg (not_or.mpr ⟨hb, h⟩), Option.some_inj, Bool.eq_iff_iff,
    beq_iff_eq, decide_eq_true_eq, Int.dvd_iff_tmod_eq_zero]

theorem divisibility_decides (hd : d.IsExact) (hn : n.IsExact) (nonzero : d.integer ≠ 0)
    (quotient : ¬ (n.integer = Numeric.minInt ∧ d.integer = -1)) :
    Decides "divisible_by" (.number d) (.number n) (d.integer ∣ n.integer) ∧
      Decides "not_divisible_by" (.number d) (.number n) (¬ d.integer ∣ n.integer) := by
  have hzero : (Numeric.ofNumber d).isZero = false := by
    rw [Numeric.ofNumber_of_isExact hd]
    exact beq_eq_false_iff_ne.mpr nonzero
  have hdivisor (name : String) : divisorFor name (.number d) = .ok d := by
    have hnumber : numberFor name (.number d) = .ok d := rfl
    rw [divisorFor, hnumber, ok_bind, hzero]
    rfl
  have hjudge (negated : Bool) : (divisibility negated d).judge (.number n) =
      .ok (decide (d.integer ∣ n.integer) != negated) := by
    simp only [judge, Numeric.ofJson?, Numeric.ofNumber_of_isExact hd,
      Numeric.ofNumber_of_isExact hn, isMultipleOf?_int nonzero quotient]
  refine ⟨⟨.divisibility false d, _, ?_, hjudge false, by simp⟩,
    ⟨.divisibility true d, _, ?_, hjudge true, by simp⟩⟩
  · exact congrArg (Except.map _) (hdivisor _)
  · exact congrArg (Except.map _) (hdivisor _)

end Validator

/-- An integer of at most 128 bits is read as what it is, be it by way of 64 bits with or without
sign or of 128 bits, and every validator that compares numbers decides between such integers, and
comparisons between them and lengths, as arithmetic does. -/
theorem integers_and_lengths_judged_exactly :
    (∀ n : Number, n.IsExact →
      Numeric.read n = .int n.integer ∧ Numeric.ofNumber n = .int n.integer) ∧
    (∀ (c : Comparison) (b : Number) (v : Json) (m : Int), b.IsExact → Measures v m →
      Validator.Decides c.name (.number b) v (c.Holds m b.integer)) ∧
    (∀ b n : Number, b.IsExact → n.IsExact →
      Validator.Decides "equal_to" (.number b) (.number n) (n.integer = b.integer) ∧
      Validator.Decides "not_equal_to" (.number b) (.number n) (n.integer ≠ b.integer)) ∧
    (∀ (bounds : List Number) (n : Number), (∀ b ∈ bounds, b.IsExact) → n.IsExact →
      Validator.Decides "accepted_values" (.array (bounds.map .number)) (.number n)
        (n.integer ∈ bounds.map Number.integer) ∧
      Validator.Decides "rejected_values" (.array (bounds.map .number)) (.number n)
        (n.integer ∉ bounds.map Number.integer)) ∧
    ∀ d n : Number, d.IsExact → n.IsExact → d.integer ≠ 0 →
      ¬ (n.integer = Numeric.minInt ∧ d.integer = -1) →
      Validator.Decides "divisible_by" (.number d) (.number n) (d.integer ∣ n.integer) ∧
      Validator.Decides "not_divisible_by" (.number d) (.number n) (¬ d.integer ∣ n.integer) := by
  refine ⟨?_, ?_, ?_, ?_, ?_⟩
  · intro n exact
    have hvalue := Numeric.ofNumber_of_isExact exact
    exact ⟨(Numeric.read_eq_ofNumber n).trans hvalue, hvalue⟩
  · intro c b v m hb hv
    exact Validator.comparison_decides c hb hv
  · intro b n hb hn
    exact Validator.equality_decides hb hn
  · intro bounds n hbounds hn
    exact Validator.membership_decides hbounds hn
  · intro d n hd hn nonzero quotient
    exact Validator.divisibility_decides hd hn nonzero quotient

/-- The two least integers are one double, and zero with a sign is zero. -/
theorem least_integers_told_apart :
    let least : Number := .ofInt Numeric.minInt
    let next : Number := .ofInt (Numeric.minInt + 1)
    let minusZero : Number := ⟨true, 0, none, none⟩
    let three : Number := .ofNat 3
    least.IsExact ∧ next.IsExact ∧ minusZero.IsExact ∧ three.IsExact ∧
      Numeric.read next = .int (Numeric.minInt + 1) ∧
      Binary64.ofInt Numeric.minInt = Binary64.ofInt (Numeric.minInt + 1) ∧
      Validator.Decides "greater_than" (.number least) (.number next)
        (Numeric.minInt < Numeric.minInt + 1) ∧
      Validator.Decides "less_than_or_equal_to" (.number three) (.string "naïf") ((4 : Int) ≤ 3) ∧
      Validator.Decides "equal_to" (.number least) (.number next)
        (Numeric.minInt + 1 = Numeric.minInt) ∧
      Validator.Decides "rejected_values" (.array [.number next, .number minusZero])
        (.number (.ofNat 0)) ((0 : Int) ∉ [Numeric.minInt + 1, 0]) ∧
      Validator.Decides "divisible_by" (.number three) (.number next)
        ((3 : Int) ∣ Numeric.minInt + 1) := by
  intro least next minusZero three
  have hleast : least.IsExact := ⟨rfl, by decide⟩
  have hnext : next.IsExact := ⟨rfl, by decide⟩
  have hminus : minusZero.IsExact := ⟨rfl, by decide⟩
  have hthree : three.IsExact := ⟨rfl, by decide⟩
  have hzero : (Number.ofNat 0).IsExact := ⟨rfl, by decide⟩
  obtain ⟨reads, compares, equals, members, divides⟩ := integers_and_lengths_judged_exactly
  have hall : ∀ b ∈ [next, minusZero], b.IsExact := by
    simp [hnext, hminus]
  exact ⟨hleast, hnext, hminus, hthree, (reads next hnext).1, by decide +kernel,
    compares .greaterThan least _ _ hleast (.integer hnext),
    compares .lessThanOrEqualTo three _ _ hthree (.characters "naïf"),
    (equals least next hleast hnext).1, (members _ _ hall hzero).2,
    (divides three next hthree hnext (by decide) (by decide)).1⟩

end Conform
