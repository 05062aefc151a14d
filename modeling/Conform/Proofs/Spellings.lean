import Conform.Proofs.Reserved
import Conform.Proofs.Tokens
import Conform.Text.Blank

/-!
Compact spellings read back. The reader makes a value of its tokens again, as far as containers may
nest, and keeps it as it is if the keys of every object differ and no object stands for a number.
-/

namespace Conform.Json

mutual

/-- How deep containers nest in a value. -/
def depth : Json → Nat
  | .array items => itemsDepth items + 1
  | .object fields => fieldsDepth fields + 1
  | _ => 0

def itemsDepth : List Json → Nat
  | [] => 0
  | v :: rest => max (depth v) (itemsDepth rest)

def fieldsDepth : List (String × Json) → Nat
  | [] => 0
  | (_, v) :: rest => max (depth v) (fieldsDepth rest)

end

variable {v : Json} {items : List Json} {fields : List (String × Json)} {c : Char}
  {cs ds : List Char} {t : Token} {ts more : List Token} {stack : List Frame}

theorem Reader.run_of_step {r next : Reader} (h : r.step t = some next) :
    r.run (t :: ts) = next.run ts := by
  rw [run, h]
  rfl

/-- A value is not empty, and nothing closes before it. -/
theorem exists_first_token (v : Json) : ∃ t ts, v.tokens = t :: ts ∧ t ≠ .rightBracket := by
  cases v <;> exact ⟨_, _, by rw [tokens], by simp⟩

theorem run_firstItem (v : Json) :
    (Reader.firstItem stack).run (v.tokens ++ more) =
      (Reader.value (.array [] :: stack)).run (v.tokens ++ more) := by
  obtain ⟨t, ts, htokens, ht⟩ := exists_first_token v
  have hstep : (Reader.firstItem stack).step t = (Reader.value (.array [] :: stack)).step t := by
    cases t <;> first | rfl | exact (ht rfl).elim
  rw [htokens, List.cons_append, Reader.run, Reader.run, hstep]

/-- Waiting for a value, the reader makes it of its tokens, where containers may nest so deep. -/
def Reads (v : Json) : Prop :=
  ∀ (stack : List Frame) (more : List Token), stack.length + v.depth ≤ Reader.maxDepth →
    (Reader.value stack).run (v.tokens ++ more) = (Reader.after v stack).run more

/-- The rest of an array, behind one of its items. -/
theorem run_items (ih : ∀ w ∈ items, Reads w) (done : List Json)
    (room : stack.length + 1 + itemsDepth items ≤ Reader.maxDepth) :
    (Reader.after v (.array done :: stack)).run
        ((items.map tokens).flatMap (.comma :: ·) ++ .rightBracket :: more) =
      (Reader.after (.array ((v :: done).reverse ++ items)) stack).run more := by
  induction items generalizing v done with
  | nil =>
    rw [List.append_nil]
    exact Reader.run_of_step rfl
  | cons w rest ihrest =>
    rw [itemsDepth] at room
    have hnext : (Reader.after v (.array done :: stack)).step .comma =
        some (.value (.array (v :: done) :: stack)) := rfl
    have hroom : (Frame.array (v :: done) :: stack).length + w.depth ≤ Reader.maxDepth := by
      rw [List.length_cons]
      omega
    rw [List.map_cons, List.flatMap_cons, List.append_assoc, List.cons_append,
      Reader.run_of_step hnext, ih w List.mem_cons_self _ _ hroom,
      ihrest (fun u hu => ih u (List.mem_cons_of_mem w hu)) (v :: done) (by omega),
      List.reverse_cons, List.append_assoc, List.singleton_append]

/-- The rest of an object, behind one of its fields. -/
theorem run_fields {key : String} (ih : ∀ field ∈ fields, Reads field.2)
    (done : List (String × Json))
    (room : stack.length + 1 + fieldsDepth fields ≤ Reader.maxDepth) :
    (Reader.after v (.object done key :: stack)).run
        ((fields.map fun field => .string field.1 :: .colon :: field.2.tokens).flatMap
          (.comma :: ·) ++ .rightBrace :: more) =
      (Reader.after (.object (((key, v) :: done).reverse ++ fields)) stack).run more := by
  induction fields generalizing key v done with
  | nil =>
    rw [List.append_nil]
    exact Reader.run_of_step rfl
  | cons field rest ihrest =>
    obtain ⟨name, w⟩ := field
    rw [fieldsDepth] at room
    have hnext : (Reader.after v (.object done key :: stack)).step .comma =
        some (.key ((key, v) :: done) stack) := rfl
    have hkey : (Reader.key ((key, v) :: done) stack).step (.string name) =
        some (.colon ((key, v) :: done) name stack) := rfl
    have hcolon : (Reader.colon ((key, v) :: done) name stack).step .colon =
        some (.value (.object ((key, v) :: done) name :: stack)) := rfl
    have hroom : (Frame.object ((key, v) :: done) name :: stack).length + w.depth ≤
        Reader.maxDepth := by
      rw [List.length_cons]
      omega
    rw [List.map_cons, List.flatMap_cons, List.append_assoc, List.cons_append, List.cons_append,
      List.cons_append, Reader.run_of_step hnext, Reader.run_of_step hkey,
      Reader.run_of_step hcolon, ih (name, w) List.mem_cons_self _ _ hroom,
      ihrest (fun u hu => ih u (List.mem_cons_of_mem _ hu)) ((key, v) :: done) (by omega),
      List.reverse_cons, List.append_assoc, List.singleton_append]

theorem reads (v : Json) : Reads v := by
  induction v using induct with
  | null | bool | number | string =>
    intro stack more _
    rw [tokens]
    exact Reader.run_of_step rfl
  | array items ih =>
    intro stack more hroom
    rw [depth] at hroom
    have hopen : (Reader.value stack).step .leftBracket = some (.firstItem stack) :=
      if_pos (by omega)
    rw [tokens, itemTokens_eq_map, List.cons_append, Reader.run_of_step hopen]
    cases items with
    | nil => exact Reader.run_of_step rfl
    | cons w rest =>
      rw [itemsDepth] at hroom
      have hw : (Frame.array [] :: stack).length + w.depth ≤ Reader.maxDepth := by
        rw [List.length_cons]
        omega
      rw [List.map_cons, separated, List.append_assoc, List.append_assoc,
        run_firstItem w, ih w List.mem_cons_self _ _ hw]
      exact run_items (fun u hu => ih u (List.mem_cons_of_mem w hu)) [] (by omega)
  | object fields ih =>
    intro stack more hroom
    rw [depth] at hroom
    have hopen : (Reader.value stack).step .leftBrace = some (.firstKey stack) :=
      if_pos (by omega)
    rw [tokens, fieldTokens_eq_map, List.cons_append, Reader.run_of_step hopen]
    cases fields with
    | nil => exact Reader.run_of_step rfl
    | cons field rest =>
      obtain ⟨key, w⟩ := field
      rw [fieldsDepth] at hroom
      have hkey : (Reader.firstKey stack).step (.string key) = some (.colon [] key stack) := rfl
      have hcolon : (Reader.colon [] key stack).step .colon =
          some (.value (.object [] key :: stack)) := rfl
      have hw : (Frame.object [] key :: stack).length + w.depth ≤ Reader.maxDepth := by
        rw [List.length_cons]
        omega
      rw [List.map_cons, separated, List.append_assoc, List.append_assoc, List.cons_append,
        List.cons_append, Reader.run_of_step hkey, Reader.run_of_step hcolon,
        ih (key, w) List.mem_cons_self _ _ hw]
      exact run_fields (fun u hu => ih u (List.mem_cons_of_mem _ hu)) [] (by omega)

/-- The compact spelling of a value is read as that value. -/
theorem read?_compress (h : v.depth ≤ Reader.maxDepth) : read? v.compress = some v := by
  have hreads := reads v [] [] (by simpa using h)
  rw [List.append_nil] at hreads
  rw [read?, scan_compress]
  exact hreads

theorem mergeItems_eq_self (h : ∀ v ∈ items, mergeKeys v = v) : mergeItems items = items := by
  induction items with
  | nil => rfl
  | cons v rest ih =>
    rw [mergeItems, h v List.mem_cons_self, ih fun w hw => h w (List.mem_cons_of_mem v hw)]

theorem mergeFields_eq_append {seen : List (String × Json)}
    (distinct : ((seen ++ fields).map (·.1)).Nodup)
    (h : ∀ key v, (key, v) ∈ fields → mergeKeys v = v) :
    mergeFields seen fields = seen ++ fields := by
  induction fields generalizing seen with
  | nil => rw [mergeFields, List.append_nil]
  | cons field rest ih =>
    obtain ⟨key, v⟩ := field
    have hnew : key ∉ seen.map (·.1) := by
      rw [List.map_append, List.nodup_append] at distinct
      exact fun h => distinct.2.2 key h key List.mem_cons_self rfl
    rw [mergeFields, h key v List.mem_cons_self, Assoc.store_of_not_mem hnew,
      ih (by simpa using distinct) fun k w hw => h k w (List.mem_cons_of_mem _ hw)]
    simp

theorem WellKeyed.mergeKeys_eq_self (h : v.WellKeyed) : mergeKeys v = v := by
  induction h with
  | null | bool | number | string => rfl
  | array _ ih => rw [mergeKeys, mergeItems_eq_self ih]
  | object distinct _ ih =>
    rw [mergeKeys, mergeFields_eq_append (by simpa using distinct) ih, List.nil_append]

/-- What is written on one line is read back, if no container is nested too deep and no object
stands for a number. -/
theorem WellKeyed.parse?_compress (h : v.WellKeyed) (nested : v.depth ≤ Reader.maxDepth)
    (free : v.Unreserved) : parse? v.compress = some v := by
  rw [parse?, read?_compress nested, Option.bind_some, free.unwrap?_eq_self, Option.map_some,
    h.mergeKeys_eq_self]

/-- No control character is among these. -/
def Printable (cs : List Char) : Prop := ∀ c ∈ cs, 0x20 ≤ c.toNat

instance (cs : List Char) : Decidable (Printable cs) := List.decidableBAll _ cs

theorem printable_cons_iff : Printable (c :: cs) ↔ 0x20 ≤ c.toNat ∧ Printable cs :=
  List.forall_mem_cons

theorem Printable.append (hcs : Printable cs) (hds : Printable ds) : Printable (cs ++ ds) :=
  List.forall_mem_append.mpr ⟨hcs, hds⟩

theorem Printable.flatMap {α : Type} {xs : List α} {f : α → List Char}
    (h : ∀ x ∈ xs, Printable (f x)) : Printable (xs.flatMap f) := by
  intro c hc
  obtain ⟨x, hx, hc⟩ := List.mem_flatMap.mp hc
  exact h x hx c hc

theorem Printable.joined {parts : List (List Char)} (h : ∀ part ∈ parts, Printable part) :
    Printable (joined [','] parts) := by
  cases parts with
  | nil => exact List.forall_mem_nil _
  | cons part parts =>
    rw [joined_cons]
    refine (h part List.mem_cons_self).append (.flatMap fun other hother => ?_)
    exact Printable.append (by decide) (h other (List.mem_cons_of_mem part hother))

theorem le_toNat_hexChar (n : Nat) : 0x20 ≤ (hexChar n).toNat := by
  have hall : ∀ d < 16, 0x20 ≤ (Nat.digitChar d).toNat := by decide
  exact hall (n % 16) (Nat.mod_lt _ (by decide))

theorem printable_escapeChar (c : Char) : Printable (escapeChar c) := by
  unfold escapeChar
  split
  case h_8 =>
    split
    · have hdigits : Printable [hexChar (c.toNat / 16), hexChar c.toNat] :=
        printable_cons_iff.mpr ⟨le_toNat_hexChar _,
          printable_cons_iff.mpr ⟨le_toNat_hexChar _, by decide⟩⟩
      have hprefix : Printable ['\\', 'u', '0', '0'] := by decide
      exact hprefix.append hdigits
    · rename_i hplain
      exact printable_cons_iff.mpr ⟨Nat.le_of_not_lt hplain, by decide⟩
  all_goals decide

theorem printable_quoted (s : String) : Printable (quoted s) := by
  have hinside : Printable (s.toList.flatMap escapeChar) :=
    .flatMap fun c _ => printable_escapeChar c
  exact printable_cons_iff.mpr ⟨by decide, hinside.append (by decide)⟩

/-- Control characters are never written as they are, line ends among them. -/
theorem printable_chars (v : Json) : Printable v.chars := by
  induction v using induct with
  | null => decide
  | bool b => cases b <;> decide
  | number n =>
    rw [chars]
    exact fun c hc => Nat.le_of_lt (plain_of_mem_number hc).2.2.1
  | string s =>
    rw [chars]
    exact printable_quoted s
  | array items ih =>
    rw [chars, itemChars_eq_map]
    have hitems := Printable.joined (List.forall_mem_map.mpr ih)
    exact printable_cons_iff.mpr ⟨by decide, hitems.append (by decide)⟩
  | object fields ih =>
    rw [chars, fieldChars_eq_map]
    have hfield : ∀ field ∈ fields, Printable (quoted field.1 ++ ':' :: field.2.chars) := by
      intro field hfield
      have hvalue := printable_cons_iff.mpr ⟨(by decide : 0x20 ≤ ':'.toNat), ih field hfield⟩
      exact (printable_quoted field.1).append hvalue
    have hfields := Printable.joined (List.forall_mem_map.mpr hfield)
    exact printable_cons_iff.mpr ⟨by decide, hfields.append (by decide)⟩

/-- A spelling is not all white space. -/
theorem exists_visible (v : Json) : ∃ c ∈ v.chars, Text.isBlank c = false := by
  cases v with
  | number n =>
    obtain ⟨c, hc⟩ := List.exists_mem_of_ne_nil _ n.chars_ne_nil
    refine ⟨c, hc, ?_⟩
    obtain ⟨-, -, hlow, hhigh⟩ := plain_of_mem_number hc
    simp [Text.isBlank]
    omega
  | bool b => cases b <;> exact ⟨_, List.mem_cons_self, by decide⟩
  | _ => exact ⟨_, List.mem_cons_self, by decide⟩

end Conform.Json
