import Mathlib.Data.List.DropRight
import Conform.Text.Key

/-!
What normalizing does to a name that is normalized already. Mostly nothing, but a colon or white
space may have come to the front, and a capital without a lowercase form starts a word anew.
-/

namespace Conform.Text

/-- Code points of white space, hyphen, colon and underscore. -/
def markRanges : List (Nat × Nat) := [
  (9, 13), (0x20, 0x20), (0x2D, 0x2D), (0x3A, 0x3A), (0x5F, 0x5F), (0x85, 0x85), (0xA0, 0xA0),
  (0x1680, 0x1680), (0x2000, 0x200A), (0x2028, 0x2029), (0x202F, 0x202F), (0x205F, 0x205F),
  (0x3000, 0x3000)]

/-- A character that separates words or is stripped from names. -/
def isMark (c : Char) : Bool := markRanges.any fun (a, b) => a ≤ c.toNat && c.toNat ≤ b

/-- No mark lies between two code points. -/
def avoidsMarks (first last : Int) : Bool := markRanges.all fun (a, b) => last < a || b < first

variable {c d : Char} {cs out : List Char} {after : Bool}

theorem not_mark_of_avoids {first last : Int} (h : avoidsMarks first last = true)
    (hfirst : first ≤ c.toNat) (hlast : c.toNat ≤ last) : isMark c = false := by
  rw [isMark, List.any_eq_false]
  rintro ⟨a, b⟩ hmem
  have hout := List.all_eq_true.mp h _ hmem
  simp only [Bool.or_eq_true, decide_eq_true_eq] at hout
  simp only [Bool.and_eq_true, decide_eq_true_eq, not_and]
  omega

theorem isMark_of_isBlank (h : isBlank c = true) : isMark c = true := by
  simp only [isBlank, Bool.or_eq_true, Bool.and_eq_true, decide_eq_true_eq] at h
  simp only [isMark, markRanges, List.any_cons, List.any_nil, Bool.or_eq_true, Bool.and_eq_true,
    decide_eq_true_eq, Bool.or_false]
  omega

theorem toNat_ofNat (n : Nat) : (Char.ofNat n).toNat = n ∨ (Char.ofNat n).toNat = 0 := by
  by_cases h : n.isValidChar
  · exact .inl (by rw [Char.ofNat, dif_pos h]; rfl)
  · exact .inr (by rw [Char.ofNat, dif_neg h]; rfl)

theorem ascii_case : ∀ n < 128, isUppercase (Char.ofNat n) = true →
    isMark (Char.ofNat n) = false ∧ (lowercase (Char.ofNat n)).all (!isMark ·) = true := by
  decide +kernel

theorem uppercaseTable_avoids :
    uppercaseTable.all (fun p => avoidsMarks p.first p.last) = true := by decide +kernel

theorem lowerMapTable_avoids :
    lowerMapTable.all (fun (p, distance) => avoidsMarks (p.first + distance) (p.last + distance)) =
      true := by decide +kernel

theorem not_mark_of_isUppercase (h : isUppercase c = true) : isMark c = false := by
  by_cases hascii : c.toNat < 128
  · have hcase := ascii_case c.toNat hascii
    rw [Char.ofNat_toNat] at hcase
    exact (hcase h).1
  · rw [isUppercase, if_neg hascii, List.any_eq_true] at h
    obtain ⟨p, hp, hc⟩ := h
    simp only [Progression.contains, Bool.and_eq_true, decide_eq_true_eq] at hc
    exact not_mark_of_avoids (List.all_eq_true.mp uppercaseTable_avoids p hp) (by omega) (by omega)

/-- Lowering a capital gives no mark. -/
theorem not_mark_of_mem_lowercase (h : isUppercase c = true) (hd : d ∈ lowercase c) :
    isMark d = false := by
  by_cases hascii : c.toNat < 128
  · have hcase := ascii_case c.toNat hascii
    rw [Char.ofNat_toNat] at hcase
    simpa using List.all_eq_true.mp (hcase h).2 d hd
  · rw [lowercase, if_neg hascii] at hd
    split at hd
    · simp only [List.mem_cons, List.not_mem_nil, or_false] at hd
      rcases hd with rfl | rfl <;> rfl
    · split at hd
      · rename_i p distance hfind
        have hin := List.find?_some hfind
        simp only [Progression.contains, Bool.and_eq_true, decide_eq_true_eq] at hin
        have havoids := List.all_eq_true.mp lowerMapTable_avoids _ (List.mem_of_find?_eq_some hfind)
        obtain rfl := List.mem_singleton.mp hd
        have hvalue := toNat_ofNat ((c.toNat : Int) + distance).toNat
        by_cases hzero : (Char.ofNat ((c.toNat : Int) + distance).toNat).toNat = 0
        · have hnone : avoidsMarks 0 0 = true := by decide
          exact not_mark_of_avoids hnone (by omega) (by omega)
        · exact not_mark_of_avoids havoids (by omega) (by omega)
      · obtain rfl := List.mem_singleton.mp hd
        exact not_mark_of_isUppercase h

/-- A lowercase form that begins with the character itself is nothing else. -/
theorem lowercase_eq_singleton (h : lowercase c = c :: cs) : lowercase c = [c] := by
  unfold lowercase at h ⊢
  split at h
  · rename_i hascii
    rw [if_pos hascii]
    simp_all
  · rename_i hascii
    rw [if_neg hascii]
    split at h
    · rename_i hdotted
      subst hdotted
      cases h
    · rename_i hdotted
      rw [if_neg hdotted]
      split at h <;> simp_all

theorem lowercase_ne_nil (c : Char) : lowercase c ≠ [] := by
  unfold lowercase
  split
  · simp
  · split
    · simp
    · split <;> simp

/-- A name without what is stripped from it. -/
def body (cs : List Char) : List Char := (trim cs).dropWhile (· = ':')

theorem dropTrailing_eq_rdropWhile (p : Char → Bool) (cs : List Char) :
    dropTrailing p cs = cs.rdropWhile p := rfl

theorem body_sublist (cs : List Char) : (body cs).Sublist cs :=
  (List.dropWhile_sublist _).trans
    ((List.rdropWhile_prefix _ _).sublist.trans (List.dropWhile_sublist _))

theorem dropTrailing_eq_self {p : Char → Bool} (h : ∀ c, cs.getLast? = some c → p c = false) :
    dropTrailing p cs = cs := by
  rw [dropTrailing_eq_rdropWhile, List.rdropWhile_eq_self_iff]
  intro hne
  simpa using h _ (List.getLast?_eq_some_getLast hne)

/-- Nothing is stripped from a name that neither begins with a colon or white space nor ends with
white space. -/
theorem body_eq_self (first : ∀ c, cs.head? = some c → c ≠ ':' ∧ isBlank c = false)
    (last : ∀ c, cs.getLast? = some c → isBlank c = false) : body cs = cs := by
  have hkeep : ∀ p : Char → Bool, (∀ c, cs.head? = some c → p c = false) → cs.dropWhile p = cs := by
    intro p h
    cases cs with
    | nil => rfl
    | cons c rest => exact List.dropWhile_cons_of_neg (by simp [h c rfl])
  have htrim : trim cs = cs := by
    rw [trim, hkeep isBlank fun c hc => (first c hc).2, dropTrailing_eq_self last]
  rw [body, htrim, hkeep]
  intro c hc
  simpa using (first c hc).1

theorem dropTrailing_cons {p : Char → Bool} (h : p c = false) :
    dropTrailing p (c :: cs) = c :: dropTrailing p cs := by
  unfold dropTrailing
  rw [List.reverse_cons, List.dropWhile_append]
  split
  · rename_i hnil
    rw [List.isEmpty_iff.mp hnil]
    simp [h]
  · simp

/-- A colon or white space in front is stripped. -/
theorem body_sublist_tail (h : c = ':' ∨ isBlank c = true) : (body (c :: cs)).Sublist cs := by
  rcases h with rfl | h
  · have hcolon : isBlank ':' = false := rfl
    rw [body, trim, List.dropWhile_cons_of_neg (by simp [hcolon]), dropTrailing_cons hcolon,
      List.dropWhile_cons_of_pos (by simp)]
    exact (List.dropWhile_sublist _).trans (List.rdropWhile_prefix _ _).sublist
  · rw [body, trim, List.dropWhile_cons_of_pos h]
    exact body_sublist cs

theorem getLast?_dropWhile {p : Char → Bool} (h : (cs.dropWhile p).getLast? = some c) :
    cs.getLast? = some c := by
  rw [← List.takeWhile_append_dropWhile (p := p) (l := cs), List.getLast?_append, h]
  rfl

theorem not_blank_of_getLast?_body (h : (body cs).getLast? = some c) : isBlank c = false := by
  have hlast := getLast?_dropWhile h
  rw [trim, dropTrailing_eq_rdropWhile] at hlast
  obtain ⟨hne, rfl⟩ := List.mem_getLast?_eq_getLast hlast
  simpa using List.rdropWhile_last_not isBlank _ hne

/-- A character after which a capital starts a new word. -/
def endsWord (c : Char) : Bool := !isUppercase c && (isLowercase c || c.isDigit)

/-- A character that stands between words. -/
abbrev Separates (c : Char) : Prop := c = '-' ∨ c = ' ' ∨ c = '_'

namespace KeyWriter
variable {w next : KeyWriter}

/-- What a capital is written after. -/
def start (w : KeyWriter) : List Char := if w.afterLower then w.separate else w.out

/-- What a character does to a name. -/
inductive Reads (w : KeyWriter) (c : Char) : KeyWriter → Prop where
  | separator (h : Separates c) : Reads w c ⟨w.separate, false⟩
  | capital (h : isUppercase c = true) : Reads w c ⟨(lowercase c).reverse ++ w.start, false⟩
  | other (separates : ¬ Separates c) (h : isUppercase c = false) :
    Reads w c ⟨c :: w.out, endsWord c⟩

theorem reads_step (w : KeyWriter) (c : Char) : w.Reads c (w.step c) := by
  unfold step
  split
  · rename_i hsep
    exact .separator hsep
  · rename_i hsep
    split
    · rename_i hupper
      exact .capital hupper
    · rename_i hupper
      have hother : w.Reads c ⟨c :: w.out, endsWord c⟩ := .other hsep (by simpa using hupper)
      simpa [endsWord, hupper] using hother

theorem separate_cases (w : KeyWriter) : w.separate = w.out ∨ w.separate = '_' :: w.out := by
  unfold separate
  split <;> simp_all

theorem start_cases (w : KeyWriter) : w.start = w.out ∨ w.start = w.separate := by
  unfold start
  split <;> simp

theorem separate_of_ne (h : c ≠ '_') : separate ⟨c :: out, after⟩ = '_' :: c :: out := by
  unfold separate
  split <;> simp_all

theorem eq_underscore_of_separate (h : w.separate.head? = some c) : c = '_' := by
  unfold separate at h
  split at h
  · cases h
  · rename_i hout
    rw [hout] at h
    cases h
    rfl
  · cases h
    rfl

theorem Reads.extends (h : w.Reads c next) : ∃ more, next.out = more ++ w.out := by
  have hseparate : ∃ more, w.separate = more ++ w.out := by
    rcases w.separate_cases with hs | hs
    · exact ⟨[], hs⟩
    · exact ⟨['_'], hs⟩
  cases h with
  | separator => exact hseparate
  | capital =>
    rcases w.start_cases with hs | hs
    · exact ⟨(lowercase c).reverse, by rw [hs]⟩
    · obtain ⟨more, hmore⟩ := hseparate
      exact ⟨(lowercase c).reverse ++ more, by rw [hs, hmore, List.append_assoc]⟩
  | other => exact ⟨[c], rfl⟩

/-- What is written stays. -/
theorem foldl_out (w : KeyWriter) (cs : List Char) :
    ∃ more, (cs.foldl step w).out = more ++ w.out := by
  induction cs generalizing w with
  | nil => exact ⟨[], rfl⟩
  | cons c cs ih =>
    obtain ⟨more, hmore⟩ := ih (w.step c)
    obtain ⟨first, hfirst⟩ := (w.reads_step c).extends
    exact ⟨more ++ first, by rw [List.foldl_cons, hmore, hfirst, List.append_assoc]⟩

/-- A written name, last character first: no hyphen and no space, and an underscore only where one
could be written. -/
inductive Tidy : List Char → Prop where
  | nil : Tidy []
  | cons {c : Char} {out : List Char} (hyphen : c ≠ '-') (space : c ≠ ' ')
    (put : c = '_' → separate ⟨out, false⟩ = '_' :: out) (h : Tidy out) : Tidy (c :: out)

theorem Tidy.append (h : Tidy out) (plain : ∀ c ∈ cs, isMark c = false) : Tidy (cs ++ out) := by
  induction cs with
  | nil => exact h
  | cons c cs ih =>
    have hc : isMark c = false := plain c (by simp)
    refine .cons ?_ ?_ ?_ (ih fun d hd => plain d (by simp [hd])) <;> rintro rfl <;> cases hc

theorem Tidy.of_append (h : Tidy (cs ++ out)) : Tidy out := by
  induction cs with
  | nil => exact h
  | cons c cs ih =>
    cases h with
    | cons _ _ _ h => exact ih h

theorem Tidy.head (h : Tidy (c :: out)) :
    c ≠ '-' ∧ c ≠ ' ' ∧ (c = '_' → separate ⟨out, false⟩ = '_' :: out) := by
  cases h with
  | cons hyphen space put _ => exact ⟨hyphen, space, put⟩

theorem Tidy.ne_space (h : Tidy cs) (hc : c ∈ cs) : c ≠ ' ' := by
  induction h with
  | nil => cases hc
  | cons _ space _ _ ih =>
    rcases List.mem_cons.mp hc with rfl | hc
    · exact space
    · exact ih hc

theorem Tidy.separate (h : Tidy w.out) : Tidy w.separate := by
  rcases w.separate_cases with hs | hs
  · rw [hs]
    exact h
  · rw [hs]
    exact .cons (by decide) (by decide) (fun _ => hs) h

theorem Tidy.reads (h : Tidy w.out) (hr : w.Reads c next) : Tidy next.out := by
  cases hr with
  | separator => exact h.separate
  | capital hupper =>
    have hstart : Tidy w.start := by
      rcases w.start_cases with hs | hs
      · rw [hs]
        exact h
      · rw [hs]
        exact h.separate
    exact hstart.append fun d hd => not_mark_of_mem_lowercase hupper (List.mem_reverse.mp hd)
  | other hsep _ =>
    simp only [not_or] at hsep
    exact .cons hsep.1 hsep.2.1 (fun hc => (hsep.2.2 hc).elim) h

theorem Tidy.foldl (h : Tidy w.out) (cs : List Char) : Tidy (cs.foldl step w).out := by
  induction cs generalizing w with
  | nil => exact h
  | cons c cs ih => exact ih (h.reads (w.reads_step c))

/-- The last character of a name is not white space if the last one read is not. -/
theorem Reads.not_blank (hr : w.Reads d next) (hd : isBlank d = false)
    (h : next.out.head? = some c) : isBlank c = false := by
  cases hr with
  | separator =>
    rw [eq_underscore_of_separate h]
    rfl
  | capital hupper =>
    have hmem : c ∈ lowercase d := by
      cases hl : (lowercase d).reverse with
      | nil => exact (lowercase_ne_nil d (List.reverse_eq_nil_iff.mp hl)).elim
      | cons a rest =>
        rw [hl] at h
        cases h
        exact List.mem_reverse.mp (hl ▸ List.mem_cons_self)
    have hmark := not_mark_of_mem_lowercase hupper hmem
    cases hblank : isBlank c with
    | false => rfl
    | true =>
      rw [isMark_of_isBlank hblank] at hmark
      cases hmark
  | other =>
    cases h
    exact hd

theorem Reads.count (hr : w.Reads c next) (hmark : isMark d = true) (hd : ¬ Separates d) :
    next.out.count d = w.out.count d + [c].count d := by
  have hseparate : w.separate.count d = w.out.count d := by
    rcases w.separate_cases with hs | hs
    · rw [hs]
    · rw [hs, List.count_cons_of_ne (by rintro rfl; simp at hd)]
  cases hr with
  | separator hsep =>
    have hne : c ≠ d := by
      rintro rfl
      exact hd hsep
    rw [hseparate, List.count_cons_of_ne hne]
    rfl
  | capital hupper =>
    have hne : c ≠ d := by
      rintro rfl
      rw [not_mark_of_isUppercase hupper] at hmark
      cases hmark
    have hlower : d ∉ (lowercase c).reverse := by
      intro hmem
      rw [not_mark_of_mem_lowercase hupper (List.mem_reverse.mp hmem)] at hmark
      cases hmark
    rw [List.count_append, List.count_eq_zero_of_not_mem hlower, List.count_cons_of_ne hne]
    rcases w.start_cases with hs | hs <;> simp [hs, hseparate]
  | other =>
    simp only [List.count_cons, List.count_nil]
    omega

/-- Colons and white space other than spaces are neither added nor taken away. -/
theorem count_foldl (hmark : isMark d = true) (hd : ¬ Separates d) (cs : List Char) :
    (cs.foldl step w).out.count d = w.out.count d + cs.count d := by
  induction cs generalizing w with
  | nil => rfl
  | cons c cs ih =>
    rw [List.foldl_cons, ih, (w.reads_step c).count hmark hd, List.count_cons, List.count_cons]
    simp only [List.count_nil]
    omega

/-- A character is written as it is; a capital is so only if it has no other form and starts no
word. -/
def keeps (after : Bool) (c : Char) : Bool :=
  !isUppercase c || (!after && lowercase c == [c])

/-- Every character of a name is written as it is. -/
def steady : Bool → List Char → Bool
  | _, [] => true
  | after, c :: rest => keeps after c && steady (endsWord c) rest

theorem Reads.eq_of_keeps (hr : Reads ⟨out, after⟩ c next) (fits : Tidy (c :: out))
    (h : keeps after c = true) : next = ⟨c :: out, endsWord c⟩ := by
  obtain ⟨hyphen, space, put⟩ := fits.head
  cases hr with
  | separator hsep =>
    rcases hsep with rfl | rfl | rfl
    · exact (hyphen rfl).elim
    · exact (space rfl).elim
    · have hput : separate ⟨out, after⟩ = '_' :: out := put rfl
      rw [hput]
      rfl
  | capital hupper =>
    obtain ⟨rfl, hlower⟩ : after = false ∧ lowercase c = [c] := by simpa [keeps, hupper] using h
    have hends : endsWord c = false := by simp [endsWord, hupper]
    rw [hlower, hends]
    rfl
  | other => rfl

/-- Whatever comes later, the next character of a name is the first one that is added. -/
theorem eq_of_added {more rest : List Char} (h : more ++ c :: out = rest ++ d :: out) : c = d := by
  have hcancel : (more ++ [c]) ++ out = (rest ++ [d]) ++ out := by simpa using h
  have hlast := congrArg List.getLast? (List.append_cancel_right hcancel)
  simpa using hlast

theorem Reads.keeps_of_eq {more rest : List Char} (hr : Reads ⟨out, after⟩ c next)
    (hafter : after = true → separate ⟨out, after⟩ = '_' :: out)
    (h : more ++ next.out = rest ++ c :: out) : keeps after c = true := by
  cases hr with
  | separator hsep => rcases hsep with rfl | rfl | rfl <;> rfl
  | other _ hupper => simp [keeps, hupper]
  | capital hupper =>
    cases after with
    | true =>
      have hadded : (more ++ (lowercase c).reverse) ++ '_' :: out = rest ++ c :: out := by
        simpa [start, hafter rfl] using h
      have hmark := not_mark_of_isUppercase hupper
      rw [← eq_of_added hadded] at hmark
      cases hmark
    | false =>
      cases hl : lowercase c with
      | nil => exact (lowercase_ne_nil c hl).elim
      | cons d ds =>
        have hadded : (more ++ ds.reverse) ++ d :: out = rest ++ c :: out := by
          simpa [start, hl] using h
        obtain rfl := eq_of_added hadded
        simp [keeps, lowercase_eq_singleton hl]

/-- A written name is written again as it is exactly if it is steady. -/
theorem refold_iff {rest : List Char} (tidy : Tidy (rest.reverse ++ out))
    (hafter : after = true → separate ⟨out, after⟩ = '_' :: out) :
    (rest.foldl step ⟨out, after⟩).out = rest.reverse ++ out ↔ steady after rest = true := by
  induction rest generalizing out after with
  | nil => simp [steady]
  | cons c rest ih =>
    have hsplit : (c :: rest).reverse ++ out = rest.reverse ++ c :: out := by simp
    have hreads := reads_step ⟨out, after⟩ c
    rw [hsplit] at tidy ⊢
    rw [List.foldl_cons, steady, Bool.and_eq_true]
    by_cases hkeep : keeps after c = true
    · have hnext : endsWord c = true → separate ⟨c :: out, endsWord c⟩ = '_' :: c :: out := by
        intro h
        refine separate_of_ne ?_
        rintro rfl
        cases h
      rw [hreads.eq_of_keeps tidy.of_append hkeep, ih tidy hnext]
      simp [hkeep]
    · constructor
      · intro h
        obtain ⟨more, hmore⟩ := foldl_out (step ⟨out, after⟩ c) rest
        rw [hmore] at h
        exact (hkeep (hreads.keeps_of_eq hafter h)).elim
      · rintro ⟨h, -⟩
        exact (hkeep h).elim

end KeyWriter

open KeyWriter

theorem toList_normalizeKey (key : String) : (normalizeKey key).toList =
    ((body key.toList).foldl step ⟨[], false⟩).out.reverse := String.toList_ofList

theorem tidy_normalizeKey (key : String) : Tidy (normalizeKey key).toList.reverse := by
  rw [toList_normalizeKey, List.reverse_reverse]
  exact Tidy.foldl (w := ⟨[], false⟩) .nil _

theorem not_blank_of_getLast?_normalizeKey {key : String}
    (h : (normalizeKey key).toList.getLast? = some c) : isBlank c = false := by
  rw [toList_normalizeKey, List.getLast?_reverse] at h
  rcases List.eq_nil_or_concat (body key.toList) with hnil | ⟨pre, d, hbody⟩
  · rw [hnil] at h
    cases h
  · have hd : isBlank d = false := not_blank_of_getLast?_body (by rw [hbody]; simp)
    rw [hbody, List.concat_eq_append, List.foldl_append] at h
    exact (reads_step _ d).not_blank hd h

/-- A normalized name that neither begins with a colon or white space nor has a capital that would
be written otherwise or would start a new word. -/
def isStable : List Char → Bool
  | [] => true
  | c :: rest => c != ':' && !isBlank c && steady false (c :: rest)

/-- What is stripped in front is not written again. -/
theorem rewritten_ne {rest : List Char} (htidy : Tidy (c :: rest).reverse)
    (h : c = ':' ∨ isBlank c = true) :
    ((body (c :: rest)).foldl step ⟨[], false⟩).out ≠ (c :: rest).reverse := by
  have hspace : c ≠ ' ' := htidy.ne_space (by simp)
  have hmark : isMark c = true := by
    rcases h with rfl | h
    · rfl
    · exact isMark_of_isBlank h
  have hsep : ¬ Separates c := by
    rintro (rfl | hc | rfl)
    · simp [isBlank] at h
    · exact hspace hc
    · simp [isBlank] at h
  intro heq
  have hcount := count_foldl (w := ⟨[], false⟩) hmark hsep (body (c :: rest))
  have hle : (body (c :: rest)).count c ≤ rest.count c := (body_sublist_tail h).count_le c
  rw [heq, List.count_reverse, List.count_cons_self, List.count_nil] at hcount
  omega

/-- Normalizing a second time changes nothing exactly for stable names. -/
theorem normalizeKey_fixed_iff (key : String) :
    normalizeKey (normalizeKey key) = normalizeKey key ↔
      isStable (normalizeKey key).toList = true := by
  have htidy : Tidy (normalizeKey key).toList.reverse := tidy_normalizeKey key
  have hlast : ∀ c, (normalizeKey key).toList.getLast? = some c → isBlank c = false :=
    fun c => not_blank_of_getLast?_normalizeKey
  rw [← String.toList_inj, toList_normalizeKey (normalizeKey key), List.reverse_eq_iff]
  generalize (normalizeKey key).toList = name at htidy hlast ⊢
  cases name with
  | nil => exact ⟨fun _ => rfl, fun _ => rfl⟩
  | cons c rest =>
    by_cases hfirst : c = ':' ∨ isBlank c = true
    · have hunstable : isStable (c :: rest) = false := by
        rcases hfirst with rfl | h
        · rfl
        · rw [isStable, h, Bool.not_true, Bool.and_false, Bool.false_and]
      rw [hunstable]
      exact iff_of_false (rewritten_ne htidy hfirst) Bool.false_ne_true
    · obtain ⟨hcolon, hnot⟩ := not_or.mp hfirst
      have hblank : isBlank c = false := Bool.eq_false_iff.mpr hnot
      have hbody : body (c :: rest) = c :: rest := by
        refine body_eq_self ?_ hlast
        rintro d ⟨⟩
        exact ⟨hcolon, hblank⟩
      have hrefold : ((c :: rest).foldl step ⟨[], false⟩).out = (c :: rest).reverse ++ [] ↔
          steady false (c :: rest) = true :=
        refold_iff (by rwa [List.append_nil]) (by simp)
      rw [List.append_nil] at hrefold
      rw [hbody, hrefold, isStable, hblank]
      simp [hcolon]

end Conform.Text
