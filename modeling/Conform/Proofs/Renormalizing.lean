import Mathlib.Data.List.Chain
import Conform.Proofs.Names

/-!
Keys whose name becomes another one when it is normalized again, told by the keys themselves: what
is left once the ends are stripped comes to begin with a colon or white space, or has a capital that
is written as it is right behind a capital that is lowered.
-/

namespace Conform.Text

variable {c d p : Char} {cs rest : List Char}

/-- The capitals of ASCII and above. -/
def capitals : List Progression := ⟨65, 90, 1⟩ :: uppercaseTable

namespace Progression
variable {r q : Progression} {distance : Int} {n : Nat}

/-- The code points that are so far away from others. -/
def shift (distance : Int) (r : Progression) : Progression :=
  ⟨(r.first + distance).toNat, (r.last + distance).toNat, r.stride⟩

/-- Two progressions lie one behind the other, or one has even and the other odd code points. -/
def apart (r q : Progression) : Bool :=
  Nat.blt r.last q.first || (Nat.blt q.last r.first ||
    (q.stride == 2 && (r.stride == 2 || r.first == r.last) && (r.first + q.first) % 2 == 1))

theorem contains_shift (hpos : 0 ≤ r.first + distance) (h : r.contains n = true) :
    (r.shift distance).contains (n + distance).toNat = true := by
  simp only [contains, shift, Bool.and_eq_true, decide_eq_true_eq, beq_iff_eq] at h ⊢
  have hsame : (n + distance).toNat - (r.first + distance).toNat = n - r.first := by omega
  obtain ⟨⟨hfirst, hlast⟩, hstep⟩ := h
  exact ⟨⟨decide_eq_true (by omega), decide_eq_true (by omega)⟩, hsame ▸ hstep⟩

theorem not_contains_of_apart (h : r.apart q = true) (hn : r.contains n = true) :
    q.contains n = false := by
  simp only [apart, contains, Nat.blt_eq, Bool.and_eq_true, Bool.or_eq_true, decide_eq_true_eq,
    beq_iff_eq] at h hn
  rw [Bool.eq_false_iff, ne_eq]
  simp only [contains, Bool.and_eq_true, decide_eq_true_eq, beq_iff_eq]
  rintro ⟨⟨hfirst, hlast⟩, hstep⟩
  rcases h with hbefore | hbehind | ⟨⟨htwo, hstride | hsingle⟩, hparity⟩
  · omega
  · omega
  · rw [htwo] at hstep
    rw [hstride] at hn
    omega
  · rw [htwo] at hstep
    omega

end Progression

theorem lowerMapTable_positive :
    lowerMapTable.all (fun (r, distance) => decide (0 ≤ r.first + distance)) = true := by
  decide +kernel

theorem lowerMapTable_apart :
    (lowerMapTable.map fun (r, distance) => r.shift distance).all
      (fun r => capitals.all r.apart) = true := by decide +kernel

theorem capitals_positive : ∀ q ∈ capitals, q.contains 0 = false := by decide +kernel

theorem mem_capitals_of_isUppercase (h : isUppercase c = true) :
    ∃ q ∈ capitals, q.contains c.toNat = true := by
  by_cases hascii : c.toNat < 128
  · rw [isUppercase, if_pos hascii] at h
    obtain ⟨hfirst, hlast⟩ : 'A'.val ≤ c.val ∧ c.val ≤ 'Z'.val := of_decide_eq_true h
    have hlow : 65 ≤ c.toNat := hfirst
    have hhigh : c.toNat ≤ 90 := hlast
    exact ⟨⟨65, 90, 1⟩, List.mem_cons_self,
      by simp [Progression.contains, hlow, hhigh, Nat.mod_one]⟩
  · rw [isUppercase, if_neg hascii, List.any_eq_true] at h
    obtain ⟨q, hq, hc⟩ := h
    exact ⟨q, List.mem_cons_of_mem _ hq, hc⟩

theorem ascii_lowercase : ∀ n < 128, isUppercase (Char.ofNat n) = true →
    (lowercase (Char.ofNat n)).all (!isUppercase ·) = true := by decide +kernel

theorem lowercase_of_ascii (hascii : c.toNat < 128) (h : isUppercase c = true)
    (hd : d ∈ lowercase c) : isUppercase d = false := by
  have hcase := ascii_lowercase c.toNat hascii
  rw [Char.ofNat_toNat] at hcase
  simpa using List.all_eq_true.mp (hcase h) d hd

/-- What the lowercase map makes of a character is no capital. -/
theorem mapped_not_isUppercase {r : Progression} {distance : Int}
    (hmem : (r, distance) ∈ lowerMapTable) (hc : r.contains c.toNat = true) :
    isUppercase (Char.ofNat ((c.toNat : Int) + distance).toNat) = false := by
  refine Bool.eq_false_iff.mpr fun hupper => ?_
  obtain ⟨q, hq, hcontains⟩ := mem_capitals_of_isUppercase hupper
  rcases toNat_ofNat ((c.toNat : Int) + distance).toNat with hsame | hzero
  · have hpos := of_decide_eq_true (List.all_eq_true.mp lowerMapTable_positive _ hmem)
    have hapart := List.all_eq_true.mp lowerMapTable_apart _ (List.mem_map_of_mem hmem)
    have hnone := Progression.not_contains_of_apart (List.all_eq_true.mp hapart q hq)
      (Progression.contains_shift hpos hc)
    rw [hsame, hnone] at hcontains
    cases hcontains
  · rw [hzero, capitals_positive q hq] at hcontains
    cases hcontains

/-- The lowercase form of a capital is the capital itself or has no capital in it. -/
theorem lowercase_cases (h : isUppercase c = true) :
    lowercase c = [c] ∨ ∀ d ∈ lowercase c, isUppercase d = false := by
  by_cases hascii : c.toNat < 128
  · exact .inr fun d hd => lowercase_of_ascii hascii h hd
  · rw [lowercase, if_neg hascii]
    split
    · refine .inr fun d hd => ?_
      rcases List.mem_pair.mp hd with rfl | rfl <;> decide
    · split
      · rename_i r distance hfind
        refine .inr fun d hd => ?_
        obtain rfl := List.mem_singleton.mp hd
        exact mapped_not_isUppercase (List.mem_of_find?_eq_some hfind)
          (List.find?_some (p := fun entry : Progression × Int => entry.1.contains c.toNat) hfind)
      · exact .inl rfl

/-- A capital is lowered to something after which a capital starts a new word. -/
def carries (c : Char) : Bool := isUppercase c && (lowercase c).getLast?.any endsWord

/-- A capital without another form stands right behind a capital that is lowered. The two are read
as one word, but written they are two. -/
def joins (c d : Char) : Bool := carries c && isUppercase d && lowercase d == [d]

namespace KeyWriter
variable {w next : KeyWriter}

/-- What is written ends a word. -/
def ends (w : KeyWriter) : Bool := w.out.head?.any endsWord

/-- What a writer knows of what is written once it has read a character. -/
structure HasRead (w : KeyWriter) (c : Char) : Prop where
  ends_eq : w.ends = (w.afterLower || carries c)
  small : w.afterLower = true → carries c = false

theorem Reads.hasRead (hr : w.Reads c next) : next.HasRead c := by
  cases hr with
  | separator hsep =>
    have hcarries : carries c = false := by rcases hsep with rfl | rfl | rfl <;> rfl
    refine ⟨?_, fun _ => hcarries⟩
    rw [hcarries, ends]
    cases hhead : w.separate.head? with
    | none => rfl
    | some d =>
      rw [eq_underscore_of_separate hhead]
      rfl
  | capital hupper =>
    refine ⟨?_, by simp⟩
    have hhead : ((lowercase c).reverse ++ w.start).head? = (lowercase c).getLast? := by
      rw [List.head?_append, List.head?_reverse]
      cases hlast : (lowercase c).getLast? with
      | none => exact (lowercase_ne_nil c (List.getLast?_eq_none_iff.mp hlast)).elim
      | some d => rfl
    rw [ends, hhead, carries, hupper]
    rfl
  | other _ hupper =>
    have hcarries : carries c = false := by rw [carries, hupper, Bool.false_and]
    exact ⟨by rw [hcarries, Bool.or_false]; rfl, fun _ => hcarries⟩

theorem start_of_ends (h : w.ends = true) (hafter : w.afterLower = true) :
    w.start = '_' :: w.out := by
  rw [start, if_pos hafter]
  obtain ⟨out, after⟩ := w
  cases out with
  | nil => cases h
  | cons d out =>
    refine separate_of_ne ?_
    rintro rfl
    cases h

end KeyWriter

open KeyWriter

theorem steady_append (after : Bool) (xs ys : List Char) : steady after (xs ++ ys) =
    (steady after xs && steady ((xs.getLast?.map endsWord).getD after) ys) := by
  induction xs generalizing after with
  | nil => simp [steady]
  | cons x xs ih =>
    rw [List.cons_append, steady, steady, ih, Bool.and_assoc]
    cases xs with
    | nil => rfl
    | cons y ys =>
      rw [List.getLast?_cons_cons, List.getLast?_cons]
      rfl

theorem steady_of_no_capital {after : Bool} (h : ∀ d ∈ cs, isUppercase d = false) :
    steady after cs = true := by
  induction cs generalizing after with
  | nil => rfl
  | cons c cs ih =>
    obtain ⟨hc, hcs⟩ := List.forall_mem_cons.mp h
    rw [steady, keeps, hc, ih hcs]
    rfl

/-- A lowercase form is written again as it is, unless it is the capital itself and comes where a
capital starts a new word. -/
theorem steady_lowercase (after : Bool) (h : isUppercase c = true) :
    steady after (lowercase c) = !(after && lowercase c == [c]) := by
  rcases lowercase_cases h with hself | hnone
  · rw [hself, steady, steady, keeps, h, hself]
    cases after <;> simp
  · have hother : (lowercase c == [c]) = false := by
      refine beq_eq_false_iff_ne.mpr fun heq => ?_
      rw [hnone c (heq ▸ List.mem_singleton_self c)] at h
      cases h
    rw [steady_of_no_capital hnone, hother, Bool.and_false, Bool.not_false]

namespace KeyWriter
variable {w next : KeyWriter}

/-- What is written is written again as it is, as far as capitals go. -/
def isSteady (w : KeyWriter) : Bool := steady false w.out.reverse

theorem steady_written (w : KeyWriter) (more : List Char) :
    steady false (more ++ w.out).reverse = (w.isSteady && steady w.ends more.reverse) := by
  rw [List.reverse_append, steady_append, isSteady, List.getLast?_reverse, ends]
  cases w.out.head? <;> rfl

theorem Reads.isSteady (hr : w.Reads c next) (hw : w.HasRead p) :
    next.isSteady = (w.isSteady && !joins p c) := by
  cases hr with
  | separator hsep =>
    have hupper : isUppercase c = false := by rcases hsep with rfl | rfl | rfl <;> rfl
    rw [joins, hupper, Bool.and_false, Bool.false_and, Bool.not_false, Bool.and_true,
      KeyWriter.isSteady]
    rcases w.separate_cases with hs | hs
    · rw [hs]
      rfl
    · have hmore := w.steady_written ['_']
      rw [hs]
      exact hmore.trans (Bool.and_true _)
  | other _ hupper =>
    have hmore := w.steady_written [c]
    rw [joins, hupper, Bool.and_false, Bool.false_and, Bool.not_false]
    refine hmore.trans ?_
    rw [steady_of_no_capital (by simpa using hupper)]
  | capital hupper =>
    rw [KeyWriter.isSteady]
    cases hafter : w.afterLower with
    | true =>
      have hends : w.ends = true := by rw [hw.ends_eq, hafter, Bool.true_or]
      have hmore := w.steady_written ((lowercase c).reverse ++ ['_'])
      have hreverse : ((lowercase c).reverse ++ ['_']).reverse = '_' :: lowercase c := by simp
      have hput : steady true ('_' :: lowercase c) = true := by
        rw [steady, steady_lowercase _ hupper]
        rfl
      rw [hreverse, hends, hput, List.append_assoc] at hmore
      rw [start_of_ends hends hafter, joins, hw.small hafter]
      exact hmore
    | false =>
      have hends : w.ends = carries p := by rw [hw.ends_eq, hafter, Bool.false_or]
      have hmore := w.steady_written (lowercase c).reverse
      rw [List.reverse_reverse, hends, steady_lowercase _ hupper] at hmore
      rw [start, hafter, joins, hupper, Bool.and_true]
      exact hmore

/-- As far as capitals go, a name is written again as it is if no two neighbours in the key join. -/
theorem isSteady_foldl (hw : w.HasRead p) : (cs.foldl step w).isSteady = true ↔
    w.isSteady = true ∧ (p :: cs).IsChain fun c d => joins c d = false := by
  induction cs generalizing w p with
  | nil => simp
  | cons c cs ih =>
    have hreads := w.reads_step c
    rw [List.foldl_cons, ih hreads.hasRead, hreads.isSteady hw, List.isChain_cons_cons,
      Bool.and_eq_true, Bool.not_eq_true', and_assoc]

end KeyWriter

/-- A key without the separators that it begins with, which are not written. -/
def front (cs : List Char) : List Char := cs.dropWhile fun c => decide (Separates c)

/-- A colon or white space, which a name must not begin with. -/
def Stripped (c : Char) : Prop := c = ':' ∨ isBlank c = true

instance (c : Char) : Decidable (Stripped c) :=
  inferInstanceAs (Decidable (c = ':' ∨ isBlank c = true))

theorem foldl_front (cs : List Char) :
    cs.foldl step ⟨[], false⟩ = (front cs).foldl step ⟨[], false⟩ := by
  induction cs with
  | nil => rfl
  | cons c cs ih =>
    rw [front, List.dropWhile_cons]
    by_cases hc : Separates c
    · rw [if_pos (decide_eq_true hc), List.foldl_cons, step, if_pos hc]
      exact ih
    · rw [if_neg (by simpa using hc)]

theorem isMark_of_stripped (h : Stripped c) : isMark c = true := by
  rcases h with rfl | h
  · rfl
  · exact isMark_of_isBlank h

/-- A written name begins with what is stripped just if the key does, behind its separators. -/
theorem stripped_head_iff :
    (∃ c, (cs.foldl step ⟨[], false⟩).out.reverse.head? = some c ∧ Stripped c) ↔
      ∃ c, (front cs).head? = some c ∧ Stripped c := by
  rw [foldl_front]
  have hfirst := List.head?_dropWhile_not (fun c => decide (Separates c)) cs
  rw [← front] at hfirst
  cases hfront : front cs with
  | nil => rfl
  | cons c rest =>
    rw [hfront] at hfirst
    have hsep : ¬ Separates c := by simpa using hfirst
    obtain ⟨more, hmore⟩ := foldl_out (step ⟨[], false⟩ c) rest
    rw [List.foldl_cons, hmore, List.reverse_append]
    have hreads := reads_step ⟨[], false⟩ c
    generalize step ⟨[], false⟩ c = next at hreads
    cases hreads with
    | separator h => exact (hsep h).elim
    | other => simp
    | capital hupper =>
      have hhead : ∃ d ds, lowercase c = d :: ds := List.exists_cons_of_ne_nil (lowercase_ne_nil c)
      obtain ⟨d, ds, hlower⟩ := hhead
      have hd : isMark d = false := not_mark_of_mem_lowercase hupper (hlower ▸ List.mem_cons_self)
      have hc : isMark c = false := not_mark_of_isUppercase hupper
      have hnot {e : Char} (he : isMark e = false) : ¬ Stripped e := by
        intro h
        rw [isMark_of_stripped h] at he
        cases he
      simp [start, hlower, hnot hd, hnot hc]

theorem isStable_iff {name : List Char} : isStable name = true ↔
    (¬ ∃ c, name.head? = some c ∧ Stripped c) ∧ steady false name = true := by
  cases name with
  | nil => simp [isStable, steady]
  | cons c rest => simp [isStable, Stripped, not_or]

theorem front_of_ascii (h : ∀ c ∈ cs, Stripped c → c = ' ') :
    ¬ ∃ c, (front cs).head? = some c ∧ Stripped c := by
  rintro ⟨c, hhead, hstripped⟩
  have hmem : c ∈ cs :=
    (List.dropWhile_sublist _).subset (List.mem_of_mem_head? (Option.mem_def.mpr hhead))
  have hfirst := List.head?_dropWhile_not (fun c => decide (Separates c)) cs
  rw [← front, hhead] at hfirst
  have hsep : ¬ Separates c := by simpa using hfirst
  exact hsep (.inr (.inl (h c hmem hstripped)))

theorem not_joins_of_ascii (h : d.toNat < 128) : joins c d = false := by
  refine Bool.eq_false_iff.mpr fun hjoins => ?_
  simp only [joins, Bool.and_eq_true, beq_iff_eq] at hjoins
  obtain ⟨⟨-, hupper⟩, hself⟩ := hjoins
  rw [lowercase_of_ascii h hupper (hself ▸ List.mem_singleton_self d)] at hupper
  cases hupper

/-- Normalizing is idempotent on a key exactly if, once its ends are stripped, what follows the
separators in front is neither a colon nor white space, and no capital without another form stands
right behind a capital that is lowered. So it is on every key in ASCII that has colons only in front
and no white space but spaces inside. -/
theorem normalizeKey_idempotent_iff (key : String) :
    (normalizeKey (normalizeKey key) = normalizeKey key ↔
      (¬ ∃ c, (front (body key.toList)).head? = some c ∧ Stripped c) ∧
      (body key.toList).IsChain fun c d => joins c d = false) ∧
    ((∀ c ∈ body key.toList, c.toNat < 128 ∧ (Stripped c → c = ' ')) →
      normalizeKey (normalizeKey key) = normalizeKey key) := by
  have hiff : normalizeKey (normalizeKey key) = normalizeKey key ↔
      (¬ ∃ c, (front (body key.toList)).head? = some c ∧ Stripped c) ∧
      (body key.toList).IsChain fun c d => joins c d = false := by
    -- Nothing is written yet, as after an underscore in front.
    have hstart : KeyWriter.HasRead ⟨[], false⟩ '_' := (reads_step ⟨[], false⟩ '_').hasRead
    have hsteady : ((body key.toList).foldl step ⟨[], false⟩).isSteady = true ↔ _ :=
      isSteady_foldl hstart
    rw [List.isChain_cons] at hsteady
    rw [normalizeKey_fixed_iff, isStable_iff, toList_normalizeKey, stripped_head_iff]
    exact and_congr_right' (hsteady.trans ⟨fun h => h.2.2, fun h => ⟨rfl, fun _ _ => rfl, h⟩⟩)
  refine ⟨hiff, fun h => hiff.mpr ⟨front_of_ascii fun c hc => (h c hc).2, ?_⟩⟩
  rw [List.isChain_iff_forall_rel_of_append_cons_cons]
  intro c d pre post heq
  exact not_joins_of_ascii (h d (by simp [heq])).1

/-- A colon behind a hyphen comes to the front, and a mathematical capital behind a letter that was
a capital comes to start a word. Usual keys keep their name. -/
theorem colon_and_capital_exposed :
    normalizeKey "-:a" = ":a" ∧ normalizeKey ":a" = "a" ∧
      normalizeKey "X𝐀" = "x𝐀" ∧ normalizeKey "x𝐀" = "x_𝐀" ∧
      normalizeKey (normalizeKey "-:a") ≠ normalizeKey "-:a" ∧
      normalizeKey (normalizeKey "X𝐀") ≠ normalizeKey "X𝐀" ∧
      normalizeKey (normalizeKey " :Allow-Nil") = normalizeKey " :Allow-Nil" := by
  refine ⟨by decide +kernel, by decide +kernel, by decide +kernel, by decide +kernel, ?_, ?_, ?_⟩
  · rw [ne_eq, (normalizeKey_idempotent_iff _).1]
    rintro ⟨hfront, -⟩
    exact hfront ⟨':', by decide +kernel, .inl rfl⟩
  · rw [ne_eq, (normalizeKey_idempotent_iff _).1]
    rintro ⟨-, hchain⟩
    have hpair : ['X', '𝐀'].IsChain fun c d => joins c d = false := hchain
    have hjoins := List.isChain_pair.mp hpair
    revert hjoins
    decide +kernel
  · refine (normalizeKey_idempotent_iff _).2 ?_
    have hplain : (body " :Allow-Nil".toList).all
        (fun c => decide (c.toNat < 128 ∧ (Stripped c → c = ' '))) = true := by decide +kernel
    exact fun c hc => of_decide_eq_true (List.all_eq_true.mp hplain c hc)

end Conform.Text
