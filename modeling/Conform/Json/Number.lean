/-!
JSON numbers as they are spelled: digits are kept, so `3`, `3.0` and `3.00` are three numbers.
-/

namespace Conform

/-- A non-empty run of decimal digits, leading zeros included. -/
structure Digits where
  first : Fin 10
  rest : List (Fin 10)
deriving DecidableEq, Repr

/-- A written exponent; the sign is always spelled, the digits are kept. -/
structure Exponent where
  negative : Bool
  digits : Digits
deriving DecidableEq, Repr

/-- A JSON number. The whole part has no leading zeros, so a natural number spells it. -/
structure Number where
  negative : Bool
  whole : Nat
  fraction : Option Digits
  exponent : Option Exponent
deriving DecidableEq, Repr

namespace Digits

def toList (d : Digits) : List (Fin 10) := d.first :: d.rest

def ofList? : List (Fin 10) → Option Digits
  | [] => none
  | d :: ds => some ⟨d, ds⟩

def zero : Fin 10 := ⟨0, by decide⟩

/-- The digit a character stands for. -/
def digit? (c : Char) : Option (Fin 10) :=
  if h : 48 ≤ c.toNat ∧ c.toNat - 48 < 10 then some ⟨c.toNat - 48, h.2⟩ else none

def char (d : Fin 10) : Char := Char.ofNat (48 + d.val)

/-- The number a list of digits denotes, most significant first. -/
def value (ds : List (Fin 10)) : Nat := ds.foldl (fun n d => 10 * n + d.val) 0

/-- The leading digits of a text and what follows them. -/
def split : List Char → List (Fin 10) × List Char
  | [] => ([], [])
  | c :: cs =>
    match digit? c with
    | some d => (d :: (split cs).1, (split cs).2)
    | none => ([], c :: cs)

end Digits

namespace Number

def ofNat (n : Nat) : Number := ⟨false, n, none, none⟩

def ofInt (i : Int) : Number := ⟨decide (i < 0), i.natAbs, none, none⟩

/-- Written without fraction and exponent. -/
def isIntegral (n : Number) : Bool := n.fraction.isNone && n.exponent.isNone

/-- The integer written before the fraction and the exponent. -/
def integer (n : Number) : Int := if n.negative then -(n.whole : Int) else n.whole

private def fractionChars : Option Digits → List Char
  | none => []
  | some f => '.' :: f.toList.map Digits.char

private def exponentChars : Option Exponent → List Char
  | none => []
  | some e => 'e' :: (if e.negative then '-' else '+') :: e.digits.toList.map Digits.char

def chars (n : Number) : List Char :=
  (if n.negative then ['-'] else []) ++ Nat.toDigits 10 n.whole ++
    fractionChars n.fraction ++ exponentChars n.exponent

def spelling (n : Number) : String := String.ofList n.chars

/-- Whole parts are a single zero or start with another digit. -/
private def whole? : List (Fin 10) → Option Nat
  | [] => none
  | [d] => some d.val
  | d :: ds => if d = Digits.zero then none else some (Digits.value (d :: ds))

private def exponent? : List Char → Option (Option Exponent)
  | [] => some none
  | c :: cs =>
    if c = 'e' ∨ c = 'E' then
      let (negative, ds) :=
        match cs with
        | '-' :: r => (true, r)
        | '+' :: r => (false, r)
        | r => (false, r)
      match Digits.split ds with
      | (ds, []) => (Digits.ofList? ds).map fun d => some ⟨negative, d⟩
      | _ => none
    else none

/-- Reads a whole text as a number. -/
def ofChars? (cs : List Char) : Option Number := do
  let (negative, cs) :=
    match cs with
    | '-' :: r => (true, r)
    | r => (false, r)
  let (ds, cs) := Digits.split cs
  let whole ← whole? ds
  match cs with
  | '.' :: r =>
    let (ds, cs) := Digits.split r
    let fraction ← Digits.ofList? ds
    let exponent ← exponent? cs
    return ⟨negative, whole, some fraction, exponent⟩
  | r =>
    let exponent ← exponent? r
    return ⟨negative, whole, none, exponent⟩

end Number

namespace Digits
variable {ds : List (Fin 10)} {cs : List Char}

theorem digit?_char (d : Fin 10) : digit? (char d) = some d := by
  revert d
  decide

/-- A run of digits ends at the first character that is none. -/
theorem split_map_char (h : ∀ c, cs.head? = some c → digit? c = none) :
    split (ds.map char ++ cs) = (ds, cs) := by
  induction ds with
  | nil =>
    cases cs with
    | nil => rfl
    | cons c cs => simp [split, h c rfl]
  | cons d ds ih => simp [split, digit?_char, ih]

theorem value_append (ds : List (Fin 10)) (d : Fin 10) :
    value (ds ++ [d]) = 10 * value ds + d.val := by
  simp [value]

theorem ofList?_toList (d : Digits) : ofList? d.toList = some d := rfl

end Digits

namespace Number
open Digits

variable {ds : List (Fin 10)} {m : Nat} {fraction : Option Digits} {exponent : Option Exponent}

private theorem value_of_whole? (h : whole? ds = some m) : value ds = m := by
  cases ds with
  | nil => cases h
  | cons d ds =>
    cases ds with
    | nil => simpa [whole?, value] using h
    | cons d' ds =>
      simp only [whole?] at h
      split at h
      · cases h
      · exact Option.some.inj h

/-- A digit behind a whole part other than zero makes another one. -/
private theorem whole?_append (h : whole? ds = some m) (hm : 0 < m) (d : Fin 10) :
    whole? (ds ++ [d]) = some (10 * m + d.val) := by
  have hvalue : value (ds ++ [d]) = 10 * m + d.val := by
    rw [value_append, value_of_whole? h]
  cases ds with
  | nil => cases h
  | cons first ds =>
    have hfirst : first ≠ Digits.zero := by
      rintro rfl
      cases ds with
      | nil =>
        cases h
        exact absurd hm (by decide)
      | cons d' ds => simp [whole?] at h
    obtain ⟨d', ds', hrest⟩ : ∃ d' ds', ds ++ [d] = d' :: ds' :=
      List.exists_cons_of_ne_nil (by simp)
    rw [List.cons_append, hrest] at hvalue ⊢
    rw [whole?, if_neg hfirst, hvalue]
    exact fun h => by cases h

/-- The digits of a natural number are read as its whole part. -/
private theorem exists_digits (n : Nat) :
    ∃ ds, Nat.toDigits 10 n = ds.map char ∧ whole? ds = some n := by
  have hchar : ∀ d : Fin 10, Nat.digitChar d.val = char d := by decide
  induction n using Nat.strongRecOn with
  | ind n ih =>
    by_cases hn : n < 10
    · refine ⟨[⟨n, hn⟩], ?_, rfl⟩
      rw [Nat.toDigits_of_lt_base hn, List.map_singleton, ← hchar]
    · obtain ⟨ds, hds, hwhole⟩ := ih (n / 10) (by omega)
      have hlast : n % 10 < 10 := Nat.mod_lt _ (by decide)
      refine ⟨ds ++ [⟨n % 10, hlast⟩], ?_, ?_⟩
      · rw [Nat.toDigits_of_base_le (by decide) (by omega), hds, List.map_append,
          List.map_singleton, ← hchar]
      · rw [whole?_append hwhole (by omega), Nat.div_add_mod]

private theorem exponent?_exponentChars (exponent : Option Exponent) :
    exponent? (exponentChars exponent) = some exponent := by
  cases exponent with
  | none => rfl
  | some e =>
    have hsplit : split (e.digits.toList.map char) = (e.digits.toList, []) := by
      rw [← List.append_nil (e.digits.toList.map char)]
      exact split_map_char fun c h => by cases h
    obtain ⟨negative, digits⟩ := e
    cases negative <;> simp [exponent?, exponentChars, hsplit, ofList?_toList]

/-- Nothing that follows the digits of a spelling is one more digit. -/
private theorem not_digit_of_head?_exponentChars {c : Char}
    (h : (exponentChars exponent).head? = some c) : digit? c = none := by
  cases exponent with
  | none => cases h
  | some e =>
    cases h
    decide

private theorem split_sign (negative : Bool) (hds : ds ≠ []) (cs : List Char) :
    (match (if negative then ['-'] else []) ++ (ds.map char ++ cs) with
      | '-' :: r => (true, r)
      | r => (false, r)) = (negative, ds.map char ++ cs) := by
  cases negative with
  | true => rfl
  | false =>
    have hplain : ∀ d : Fin 10, char d ≠ '-' := by decide
    obtain ⟨d, ds, rfl⟩ := List.exists_cons_of_ne_nil hds
    split
    · rename_i r h
      exact (hplain d (List.cons.inj h).1).elim
    · rfl

/-- A spelled number is read as the number that it spells. -/
theorem ofChars?_chars (n : Number) : ofChars? n.chars = some n := by
  obtain ⟨negative, whole, fraction, exponent⟩ := n
  obtain ⟨ds, hds, hwhole⟩ := exists_digits whole
  have hne : ds ≠ [] := by
    rintro rfl
    cases hwhole
  have hdigits : split (ds.map char ++ (fractionChars fraction ++ exponentChars exponent)) =
      (ds, fractionChars fraction ++ exponentChars exponent) := by
    refine split_map_char fun c hc => ?_
    cases fraction with
    | none => exact not_digit_of_head?_exponentChars hc
    | some f =>
      cases hc
      decide
  rw [chars, List.append_assoc, List.append_assoc, hds]
  simp only [ofChars?, split_sign negative hne, hdigits, hwhole, Option.bind_eq_bind,
    Option.bind_some]
  cases fraction with
  | some f =>
    have hfraction : split (f.toList.map char ++ exponentChars exponent) =
        (f.toList, exponentChars exponent) :=
      split_map_char fun c hc => not_digit_of_head?_exponentChars hc
    simp [fractionChars, hfraction, ofList?_toList, exponent?_exponentChars]
  | none =>
    rw [fractionChars, List.nil_append]
    split
    · rename_i r h
      cases exponent <;> cases h
    · simp [exponent?_exponentChars]

theorem chars_ne_nil (n : Number) : n.chars ≠ [] := by
  simp [chars, Nat.toDigits_ne_nil]

theorem mem_chars {n : Number} {c : Char} (h : c ∈ n.chars) :
    (∃ d, c = char d) ∨ c = '-' ∨ c = '+' ∨ c = '.' ∨ c = 'e' := by
  have hdigit {ds : List (Fin 10)} (hc : c ∈ ds.map char) : ∃ d, c = char d := by
    obtain ⟨d, -, hd⟩ := List.mem_map.mp hc
    exact ⟨d, hd.symm⟩
  obtain ⟨negative, whole, fraction, exponent⟩ := n
  simp only [chars, List.mem_append] at h
  rcases h with ((hsign | hwhole) | hfraction) | hexponent
  · cases negative <;> simp_all
  · obtain ⟨ds, hds, -⟩ := exists_digits whole
    exact .inl (hdigit (hds ▸ hwhole))
  · cases fraction with
    | none => cases hfraction
    | some f =>
      rcases List.mem_cons.mp hfraction with rfl | hc
      · simp
      · exact .inl (hdigit hc)
  · cases exponent with
    | none => cases hexponent
    | some e =>
      rcases List.mem_cons.mp hexponent with rfl | hc
      · simp
      · rcases List.mem_cons.mp hc with rfl | hc
        · split <;> simp
        · exact .inl (hdigit hc)

end Number

end Conform
