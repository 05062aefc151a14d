import Conform.Proofs.Equality

/-!
Objects that stand for numbers. What is read holds none of them, and a value that holds none is left
as it is.
-/

namespace Conform.Json

/-- No object in a value begins with the key that is reserved for numbers. -/
inductive Unreserved : Json → Prop where
  | null : Unreserved .null
  | bool {b : Bool} : Unreserved (.bool b)
  | number {n : Number} : Unreserved (.number n)
  | string {s : String} : Unreserved (.string s)
  | array {items : List Json} (inside : ∀ v ∈ items, Unreserved v) : Unreserved (.array items)
  | object {fields : List (String × Json)} (free : isReserved fields = false)
    (inside : ∀ key v, (key, v) ∈ fields → Unreserved v) : Unreserved (.object fields)

variable {v w : Json} {items : List Json} {fields acc : List (String × Json)} {key : String}

theorem unwrapItems?_eq_self (h : ∀ v ∈ items, unwrap? v = some v) :
    unwrapItems? items = some items := by
  induction items with
  | nil => rfl
  | cons v rest ih =>
    rw [unwrapItems?, h v List.mem_cons_self, ih fun w hw => h w (List.mem_cons_of_mem v hw)]
    rfl

theorem unwrapFields?_eq_self (h : ∀ key v, (key, v) ∈ fields → unwrap? v = some v) :
    unwrapFields? fields = some fields := by
  induction fields with
  | nil => rfl
  | cons field rest ih =>
    obtain ⟨key, v⟩ := field
    rw [unwrapFields?, h key v List.mem_cons_self,
      ih fun k w hw => h k w (List.mem_cons_of_mem _ hw)]
    rfl

theorem Unreserved.unwrap?_eq_self (h : v.Unreserved) : unwrap? v = some v := by
  induction h with
  | null | bool | number | string => rfl
  | array _ ih => rw [unwrap?, unwrapItems?_eq_self ih, Option.map_some]
  | object free _ ih =>
    rw [unwrap?, free, unwrapFields?_eq_self ih]
    rfl

mutual

theorem unreserved_of_unwrap? : ∀ v w : Json, unwrap? v = some w → w.Unreserved
  | .null, _, h => Option.some.inj h ▸ .null
  | .bool _, _, h => Option.some.inj h ▸ .bool
  | .number _, _, h => Option.some.inj h ▸ .number
  | .string _, _, h => Option.some.inj h ▸ .string
  | .array items, _, h => by
    obtain ⟨kept, hkept, rfl⟩ := Option.map_eq_some_iff.mp h
    exact .array (unreserved_of_unwrapItems? items kept hkept)
  | .object fields, _, h => by
    rw [unwrap?] at h
    split at h
    · obtain ⟨n, -, rfl⟩ := Option.map_eq_some_iff.mp h
      exact .number
    · rename_i free
      obtain ⟨kept, hkept, rfl⟩ := Option.map_eq_some_iff.mp h
      obtain ⟨same, inside⟩ := unreserved_of_unwrapFields? fields kept hkept
      exact .object (same.trans free) inside

theorem unreserved_of_unwrapItems? : ∀ items kept : List Json, unwrapItems? items = some kept →
    ∀ v ∈ kept, v.Unreserved
  | [], _, h, _, hv => by
    cases h
    cases hv
  | item :: rest, _, h, w, hw => by
    obtain ⟨v, hv, h⟩ := Option.bind_eq_some_iff.mp h
    obtain ⟨more, hmore, h⟩ := Option.bind_eq_some_iff.mp h
    cases h
    rcases List.mem_cons.mp hw with rfl | hw
    · exact unreserved_of_unwrap? item _ hv
    · exact unreserved_of_unwrapItems? rest more hmore w hw

theorem unreserved_of_unwrapFields? : ∀ fields kept : List (String × Json),
    unwrapFields? fields = some kept → isReserved kept = isReserved fields ∧
      ∀ key v, (key, v) ∈ kept → v.Unreserved
  | [], _, h => by
    cases h
    exact ⟨rfl, fun _ _ h => (List.not_mem_nil h).elim⟩
  | (name, field) :: rest, _, h => by
    obtain ⟨v, hv, h⟩ := Option.bind_eq_some_iff.mp h
    obtain ⟨more, hmore, h⟩ := Option.bind_eq_some_iff.mp h
    cases h
    refine ⟨rfl, fun key w hw => ?_⟩
    rcases List.mem_cons.mp hw with heq | hw
    · cases heq
      exact unreserved_of_unwrap? field _ hv
    · exact (unreserved_of_unwrapFields? rest more hmore).2 key w hw

end

/-- The first key stays the first. -/
theorem isReserved_mergeFields :
    isReserved (mergeFields acc fields) = isReserved (acc ++ fields) := by
  induction fields generalizing acc with
  | nil => rw [mergeFields, List.append_nil]
  | cons field rest ih =>
    obtain ⟨key, v⟩ := field
    rw [mergeFields, ih]
    cases acc with
    | nil => rfl
    | cons entry acc =>
      obtain ⟨k, w⟩ := entry
      rw [Assoc.store]
      split <;> rfl

theorem unreserved_of_mem_mergeFields
    (ih : ∀ key v, (key, v) ∈ fields → (mergeKeys v).Unreserved)
    (hacc : ∀ key v, (key, v) ∈ acc → v.Unreserved) (h : (key, w) ∈ mergeFields acc fields) :
    w.Unreserved := by
  induction fields generalizing acc with
  | nil => exact hacc key w h
  | cons field rest ihrest =>
    obtain ⟨name, v⟩ := field
    refine ihrest (fun k u hu => ih k u (List.mem_cons_of_mem _ hu)) (fun k u hu => ?_) h
    rcases Assoc.mem_store hu with rfl | hu
    · exact ih name v List.mem_cons_self
    · exact hacc k u hu

theorem mem_mergeItems (h : w ∈ mergeItems items) : ∃ v ∈ items, w = mergeKeys v := by
  induction items with
  | nil => cases h
  | cons v rest ih =>
    rcases List.mem_cons.mp h with rfl | h
    · exact ⟨v, List.mem_cons_self, rfl⟩
    · obtain ⟨u, hu, heq⟩ := ih h
      exact ⟨u, List.mem_cons_of_mem v hu, heq⟩

theorem Unreserved.mergeKeys (h : v.Unreserved) : (mergeKeys v).Unreserved := by
  induction h with
  | null => exact .null
  | bool => exact .bool
  | number => exact .number
  | string => exact .string
  | array _ ih =>
    refine .array fun w hw => ?_
    obtain ⟨v, hv, rfl⟩ := mem_mergeItems hw
    exact ih v hv
  | object free _ ih =>
    refine .object (isReserved_mergeFields.trans free) fun key w hw => ?_
    exact unreserved_of_mem_mergeFields ih (fun _ _ h => (List.not_mem_nil h).elim) hw

/-- What a text spells holds no object that stands for a number, whatever the text. -/
theorem unreserved_of_parse? {s : String} (h : parse? s = some v) : v.Unreserved := by
  obtain ⟨plain, hplain, rfl⟩ := Option.map_eq_some_iff.mp h
  obtain ⟨raw, -, hraw⟩ := Option.bind_eq_some_iff.mp hplain
  exact (unreserved_of_unwrap? raw plain hraw).mergeKeys

example : parse? "[\x7b\"$serde_json::private::Number\":\"12\"\x7d]" =
    some (.array [.number (.ofNat 12)]) := by
  cbv

end Conform.Json
