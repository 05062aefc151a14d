import Conform.Proofs.Names

/-!
Names in different styles. Whichever way words are run together into a name, normalizing tells them
apart and joins them with underscores.
-/

namespace Conform.Text

/-- What words are made of after their first letter. -/
def InWord (c : Char) : Prop := c.isLower = true ∨ c.isDigit = true

/-- A word of a name: a lowercase letter and then at least one lowercase letter or digit. -/
structure Word where
  first : Char
  second : Char
  rest : List Char
  first_isLower : first.isLower = true
  inWord : ∀ c ∈ second :: rest, InWord c

namespace Word

def chars (w : Word) : List Char := w.first :: w.second :: w.rest

def text (w : Word) : String := String.ofList w.chars

def capitalized (w : Word) : List Char := w.first.toUpper :: w.second :: w.rest

end Word

inductive KeyStyle where
  | camel
  | pascal
  | kebab
  | snake
  | spaced
  | colon

/-- A list of words written as one name. -/
def KeyStyle.spell : KeyStyle → List Word → List Char
  | camel, [] => []
  | camel, w :: ws => w.chars ++ ws.flatMap Word.capitalized
  | pascal, ws => ws.flatMap Word.capitalized
  | kebab, ws => ['-'].intercalate (ws.map Word.chars)
  | snake, ws => ['_'].intercalate (ws.map Word.chars)
  | spaced, ws => [' '].intercalate (ws.map Word.chars)
  | colon, ws => ':' :: ['_'].intercalate (ws.map Word.chars)

variable {c d : Char} {cs out before after : List Char} {k : KeyWriter} {w v : Word}
  {ws : List Word}

theorem ascii_words : ∀ n < 128,
    ((Char.ofNat n).isLower = true ∨ (Char.ofNat n).isDigit = true →
      isMark (Char.ofNat n) = false ∧ isUppercase (Char.ofNat n) = false ∧
        (isLowercase (Char.ofNat n) || (Char.ofNat n).isDigit) = true) ∧
    ((Char.ofNat n).isLower = true →
      isMark (Char.ofNat n).toUpper = false ∧ isUppercase (Char.ofNat n).toUpper = true ∧
        lowercase (Char.ofNat n).toUpper = [Char.ofNat n]) := by
  decide +kernel

theorem InWord.toNat_lt (h : InWord c) : c.toNat < 128 := by
  have hvalue : c.toNat = c.val.toNat := rfl
  have hz : 'z'.val.toNat = 122 := rfl
  have hnine : '9'.val.toNat = 57 := rfl
  rcases h with h | h
  · have hle : c.val ≤ 'z'.val := of_decide_eq_true (Bool.and_eq_true_iff.mp h).2
    rw [UInt32.le_iff_toNat_le] at hle
    omega
  · have hle : c.val ≤ '9'.val := of_decide_eq_true (Bool.and_eq_true_iff.mp h).2
    rw [UInt32.le_iff_toNat_le] at hle
    omega

theorem InWord.plain (h : InWord c) : isMark c = false ∧ isUppercase c = false ∧
    (isLowercase c || c.isDigit) = true := by
  have hascii := (ascii_words c.toNat h.toNat_lt).1
  rw [Char.ofNat_toNat] at hascii
  exact hascii h

theorem capital_of_isLower (h : c.isLower = true) : isMark c.toUpper = false ∧
    isUppercase c.toUpper = true ∧ lowercase c.toUpper = [c] := by
  have hascii := (ascii_words c.toNat (InWord.toNat_lt (.inl h))).2
  rw [Char.ofNat_toNat] at hascii
  exact hascii h

theorem not_separates_of_not_mark (h : isMark c = false) : ¬ Separates c := by
  rintro (rfl | rfl | rfl) <;> cases h

theorem not_blank_of_not_mark (h : isMark c = false) : isBlank c = false := by
  cases hb : isBlank c with
  | false => rfl
  | true =>
    rw [isMark_of_isBlank hb] at h
    cases h

namespace KeyWriter

theorem step_inWord (h : InWord c) : k.step c = ⟨c :: k.out, true⟩ := by
  obtain ⟨hmark, hupper, hlower⟩ := h.plain
  simp only [step, if_neg (not_separates_of_not_mark hmark), hupper, hlower]
  rfl

theorem step_toUpper (h : c.isLower = true) : k.step c.toUpper = ⟨c :: k.start, false⟩ := by
  obtain ⟨hmark, hupper, hlower⟩ := capital_of_isLower h
  simp only [step, if_neg (not_separates_of_not_mark hmark), hupper, hlower]
  rfl

/-- Such characters are written as they are, and a capital after them starts a word. -/
theorem foldl_inWord (h : ∀ d ∈ c :: cs, InWord d) :
    (c :: cs).foldl step k = ⟨(c :: cs).reverse ++ k.out, true⟩ := by
  induction cs generalizing c k with
  | nil => exact step_inWord (h c List.mem_cons_self)
  | cons d cs ih =>
    rw [List.foldl_cons, step_inWord (h c List.mem_cons_self),
      ih fun e he => h e (List.mem_cons_of_mem _ he), List.reverse_cons (a := c), List.append_assoc]
    rfl

theorem foldl_chars (w : Word) (k : KeyWriter) :
    w.chars.foldl step k = ⟨w.chars.reverse ++ k.out, true⟩ := by
  refine foldl_inWord fun c hc => ?_
  rcases List.mem_cons.mp hc with rfl | hc
  · exact .inl w.first_isLower
  · exact w.inWord c hc

theorem foldl_capitalized (w : Word) (k : KeyWriter) :
    w.capitalized.foldl step k = ⟨w.chars.reverse ++ k.start, true⟩ := by
  rw [Word.capitalized, List.foldl_cons, step_toUpper w.first_isLower, foldl_inWord w.inWord,
    Word.chars, List.reverse_cons (a := w.first), List.append_assoc]
  rfl

/-- A word in the middle of a name is written after one underscore. -/
def Continues (piece : Word → List Char) : Prop :=
  ∀ (w : Word) (c : Char) (out : List Char), InWord c →
    (piece w).foldl step ⟨c :: out, true⟩ = ⟨w.chars.reverse ++ '_' :: c :: out, true⟩

theorem separate_inWord {after : Bool} (h : InWord c) :
    separate ⟨c :: out, after⟩ = '_' :: c :: out := by
  refine separate_of_ne ?_
  rintro rfl
  cases h.plain.1

theorem continues_separated (h : Separates d) : Continues fun w => d :: w.chars := by
  intro w c out hc
  have hstep : step ⟨c :: out, true⟩ d = ⟨'_' :: c :: out, false⟩ := by
    rw [step, if_pos h, separate_inWord hc]
  rw [List.foldl_cons, hstep, foldl_chars]

theorem continues_capitalized : Continues Word.capitalized := by
  intro w c out hc
  have hstart : start ⟨c :: out, true⟩ = '_' :: c :: out := separate_inWord hc
  rw [foldl_capitalized, hstart]

end KeyWriter

/-- The last character is one of a word. -/
def EndsInWord (cs : List Char) : Prop := ∃ pre c, cs = pre ++ [c] ∧ InWord c

theorem EndsInWord.append_left (h : EndsInWord cs) (pre : List Char) : EndsInWord (pre ++ cs) := by
  obtain ⟨rest, c, rfl, hc⟩ := h
  exact ⟨pre ++ rest, c, (List.append_assoc pre rest [c]).symm, hc⟩

theorem EndsInWord.not_blank (h : EndsInWord cs) (hc : cs.getLast? = some c) :
    isBlank c = false := by
  obtain ⟨pre, d, rfl, hd⟩ := h
  rw [List.getLast?_concat, Option.some_inj] at hc
  exact not_blank_of_not_mark (hc ▸ hd.plain.1)

theorem Word.endsInWord (w : Word) : EndsInWord (w.second :: w.rest) := by
  rcases List.eq_nil_or_concat (w.second :: w.rest) with hnil | ⟨pre, c, hrest⟩
  · cases hnil
  · rw [List.concat_eq_append] at hrest
    exact ⟨pre, c, hrest, w.inWord c (by simp [hrest])⟩

/-- Words that continue a name are joined to it. -/
theorem KeyWriter.Continues.foldl {piece : Word → List Char} (h : Continues piece) :
    (ws.flatMap piece).foldl step ⟨w.chars.reverse ++ out, true⟩ =
      ⟨(['_'].intercalate ((w :: ws).map Word.chars)).reverse ++ out, true⟩ := by
  induction ws generalizing w out with
  | nil => simp
  | cons v ws ih =>
    have hword : (piece v).foldl step ⟨w.chars.reverse ++ out, true⟩ =
        ⟨v.chars.reverse ++ '_' :: (w.chars.reverse ++ out), true⟩ := by
      obtain ⟨pre, c, hlast, hc⟩ := w.endsInWord.append_left [w.first]
      have hchars : w.chars = pre ++ [c] := hlast
      rw [hchars, List.reverse_concat]
      exact h v c (pre.reverse ++ out) hc
    rw [List.flatMap_cons, List.foldl_append, hword, ih]
    simp [List.intercalate_cons_cons]

theorem intercalate_chars (d : Char) (w : Word) (ws : List Word) :
    [d].intercalate ((w :: ws).map Word.chars) = w.chars ++ ws.flatMap fun w => d :: w.chars := by
  induction ws generalizing w with
  | nil => simp
  | cons v ws ih =>
    rw [List.map_cons, List.map_cons, List.intercalate_cons_cons, ← List.map_cons, ih,
      List.flatMap_cons]
    simp

namespace KeyStyle
open KeyWriter
variable {style : KeyStyle}

/-- What a style puts in front of a name, to be stripped again. -/
def mark : KeyStyle → List Char
  | colon => [':']
  | _ => []

/-- How the first word of a name is written. -/
def opening : KeyStyle → Word → List Char
  | pascal => Word.capitalized
  | _ => Word.chars

/-- How any other word is written. -/
def following : KeyStyle → Word → List Char
  | camel | pascal => Word.capitalized
  | kebab => fun w => '-' :: w.chars
  | snake | colon => fun w => '_' :: w.chars
  | spaced => fun w => ' ' :: w.chars

theorem spell_cons (style : KeyStyle) (w : Word) (ws : List Word) :
    style.spell (w :: ws) = style.mark ++ (style.opening w ++ ws.flatMap style.following) := by
  cases style with
  | camel | pascal => rfl
  | kebab | snake | spaced => exact intercalate_chars _ w ws
  | colon => exact congrArg (':' :: ·) (intercalate_chars _ w ws)

theorem continues_following (style : KeyStyle) : Continues style.following := by
  cases style with
  | camel | pascal => exact continues_capitalized
  | kebab => exact continues_separated (.inl rfl)
  | spaced => exact continues_separated (.inr (.inl rfl))
  | snake | colon => exact continues_separated (.inr (.inr rfl))

theorem foldl_opening (style : KeyStyle) (w : Word) :
    (style.opening w).foldl step ⟨[], false⟩ = ⟨w.chars.reverse, true⟩ := by
  cases style with
  | pascal => exact (foldl_capitalized w _).trans (by simp [start])
  | _ => exact (foldl_chars w _).trans (by simp)

/-- Without what is in front, a name of any style is written in snake case. -/
theorem foldl_spell (style : KeyStyle) (w : Word) (ws : List Word) :
    ((style.opening w ++ ws.flatMap style.following).foldl step ⟨[], false⟩).out.reverse =
      ['_'].intercalate ((w :: ws).map Word.chars) := by
  have hrun : (ws.flatMap style.following).foldl step ⟨w.chars.reverse ++ [], true⟩ =
      ⟨(['_'].intercalate ((w :: ws).map Word.chars)).reverse ++ [], true⟩ :=
    style.continues_following.foldl
  rw [List.append_nil, List.append_nil] at hrun
  rw [List.foldl_append, foldl_opening, hrun, List.reverse_reverse]

theorem opening_eq (style : KeyStyle) (w : Word) : ∃ c, isMark c = false ∧
    style.opening w = c :: w.second :: w.rest := by
  have hfirst : InWord w.first := .inl w.first_isLower
  cases style with
  | pascal => exact ⟨_, (capital_of_isLower w.first_isLower).1, rfl⟩
  | _ => exact ⟨_, hfirst.plain.1, rfl⟩

theorem endsInWord_following (style : KeyStyle) (w : Word) : EndsInWord (style.following w) := by
  cases style with
  | camel | pascal => exact w.endsInWord.append_left [_]
  | kebab | snake | spaced | colon => exact w.endsInWord.append_left [_, _]

theorem endsInWord_spell (style : KeyStyle) (w : Word) (ws : List Word) :
    EndsInWord (style.opening w ++ ws.flatMap style.following) := by
  rcases List.eq_nil_or_concat ws with rfl | ⟨init, v, rfl⟩
  · obtain ⟨c, -, hopening⟩ := style.opening_eq w
    rw [hopening, List.flatMap_nil, List.append_nil]
    exact w.endsInWord.append_left [c]
  · rw [List.concat_eq_append, List.flatMap_append, List.flatMap_singleton, ← List.append_assoc]
    exact (style.endsInWord_following v).append_left _

end KeyStyle

theorem dropTrailing_append {p : Char → Bool} (h : ∀ c ∈ after, p c = true) :
    dropTrailing p (cs ++ after) = dropTrailing p cs := by
  unfold dropTrailing
  rw [List.reverse_append, List.dropWhile_append_of_pos]
  intro c hc
  exact h c (List.mem_reverse.mp hc)

/-- White space around a name is stripped, and colons in front of it. -/
theorem body_padded {front : List Char} (hbefore : ∀ c ∈ before, isBlank c = true)
    (hafter : ∀ c ∈ after, isBlank c = true) (hfront : ∀ d ∈ front, d = ':')
    (hfirst : isMark c = false) (hlast : EndsInWord (c :: cs)) :
    body (before ++ (front ++ c :: cs) ++ after) = c :: cs := by
  have hcolon : isMark ':' = true := rfl
  have hblank : (front ++ c :: cs ++ after).dropWhile isBlank = front ++ c :: cs ++ after := by
    cases front with
    | nil => exact List.dropWhile_cons_of_neg (by simp [not_blank_of_not_mark hfirst])
    | cons d front =>
      obtain rfl := hfront d List.mem_cons_self
      exact List.dropWhile_cons_of_neg (by decide)
  have htrim : trim (before ++ (front ++ c :: cs) ++ after) = front ++ c :: cs := by
    rw [trim, List.append_assoc, List.dropWhile_append_of_pos hbefore, hblank,
      dropTrailing_append hafter]
    exact dropTrailing_eq_self fun d hd => (hlast.append_left front).not_blank hd
  rw [body, htrim, List.dropWhile_append_of_pos fun d hd => by simpa using hfront d hd]
  refine List.dropWhile_cons_of_neg ?_
  rintro hc
  rw [of_decide_eq_true hc] at hfirst
  cases hfirst

/-- All styles of one name are the same name: normalizing takes any of them, with white space around
it or without, to the words joined by underscores. -/
theorem normalizeKey_joins_words (style : KeyStyle) (words : List Word) (nonempty : words ≠ [])
    (before after : List Char) (hbefore : ∀ c ∈ before, isBlank c = true)
    (hafter : ∀ c ∈ after, isBlank c = true) :
    normalizeKey (String.ofList (before ++ style.spell words ++ after)) =
      "_".intercalate (words.map Word.text) := by
  cases words with
  | nil => exact (nonempty rfl).elim
  | cons w ws =>
    have hmark : ∀ d ∈ style.mark, d = ':' := by
      cases style <;> simp [KeyStyle.mark]
    obtain ⟨c, hc, hopening⟩ := style.opening_eq w
    have hlast := style.endsInWord_spell w ws
    have hjoined := style.foldl_spell w ws
    rw [hopening, List.cons_append] at hlast hjoined
    have hbody : body (before ++ style.spell (w :: ws) ++ after) =
        c :: (w.second :: w.rest ++ ws.flatMap style.following) := by
      rw [style.spell_cons, hopening]
      exact body_padded hbefore hafter hmark hc hlast
    have htexts : String.toList ∘ Word.text = Word.chars := by
      funext w
      exact String.toList_ofList
    rw [← String.toList_inj, toList_normalizeKey, String.toList_ofList, hbody, hjoined,
      String.toList_intercalate, List.map_map, htexts]
    rfl

/-- A digit ends the first word, and there is white space around the name. -/
theorem styles_of_ip4_zone :
    let ip4 : Word := ⟨'i', 'p', ['4'], rfl, by simp [InWord]⟩
    let zone : Word := ⟨'z', 'o', ['n', 'e'], rfl, by simp [InWord]⟩
    let words : List Word := [ip4, zone]
    words ≠ [] ∧ (∀ c ∈ ['\t'], isBlank c = true) ∧ (∀ c ∈ [' '], isBlank c = true) ∧
      normalizeKey "\tIp4Zone " = "_".intercalate ["ip4", "zone"] ∧
      normalizeKey "ip4 zone" = "_".intercalate ["ip4", "zone"] := by
  intro ip4 zone words
  have htab : ∀ c ∈ ['\t'], isBlank c = true := List.forall_mem_singleton.mpr rfl
  have hspace : ∀ c ∈ [' '], isBlank c = true := List.forall_mem_singleton.mpr rfl
  have hwords : words ≠ [] := by simp [words]
  have htexts : words.map Word.text = ["ip4", "zone"] := rfl
  have hpascal := normalizeKey_joins_words .pascal words hwords ['\t'] [' '] htab hspace
  have hspaced := normalizeKey_joins_words .spaced words hwords [] [] (by simp) (by simp)
  have pascal : String.ofList (['\t'] ++ KeyStyle.pascal.spell words ++ [' ']) = "\tIp4Zone " := by
    decide +kernel
  have spaced : String.ofList ([] ++ KeyStyle.spaced.spell words ++ []) = "ip4 zone" := rfl
  rw [htexts, pascal] at hpascal
  rw [htexts, spaced] at hspaced
  exact ⟨hwords, htab, hspace, hpascal, hspaced⟩

end Conform.Text
