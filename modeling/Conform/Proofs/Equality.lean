import Mathlib.Data.List.Perm.Subperm
import Conform.Json.Parser
import Conform.Proofs.Assoc

/-!
Equality of JSON values. Where the keys of every object differ, as they do in what is read, equality
is an equivalence, and equal objects hold equal values under the same keys.
-/

namespace Conform.Json

/-- The keys of every object in a value differ. -/
inductive WellKeyed : Json → Prop where
  | null : WellKeyed .null
  | bool {b : Bool} : WellKeyed (.bool b)
  | number {n : Number} : WellKeyed (.number n)
  | string {s : String} : WellKeyed (.string s)
  | array {items : List Json} (inside : ∀ v ∈ items, WellKeyed v) : WellKeyed (.array items)
  | object {fields : List (String × Json)} (distinct : (fields.map (·.1)).Nodup)
    (inside : ∀ key v, (key, v) ∈ fields → WellKeyed v) : WellKeyed (.object fields)

variable {u v w : Json} {xs ys : List Json} {a b : List (String × Json)} {key : String}

mutual

theorem wellKeyed_mergeKeys : ∀ v : Json, (mergeKeys v).WellKeyed
  | .null => .null
  | .bool _ => .bool
  | .number _ => .number
  | .string _ => .string
  | .array items => .array (wellKeyed_mergeItems items)
  | .object fields =>
    wellKeyed_mergeFields fields [] (.object List.nodup_nil fun _ _ h => (List.not_mem_nil h).elim)

theorem wellKeyed_mergeItems : ∀ items : List Json, ∀ v ∈ mergeItems items, v.WellKeyed
  | [], _, h => (List.not_mem_nil h).elim
  | item :: rest, v, h => by
    rcases List.mem_cons.mp h with rfl | h
    · exact wellKeyed_mergeKeys item
    · exact wellKeyed_mergeItems rest v h

theorem wellKeyed_mergeFields : ∀ (fields acc : List (String × Json)), (Json.object acc).WellKeyed →
    (Json.object (mergeFields acc fields)).WellKeyed
  | [], _, h => h
  | (key, v) :: rest, acc, h => by
    cases h with
    | object distinct inside =>
      refine wellKeyed_mergeFields rest _ (.object (Assoc.nodup_store distinct) ?_)
      intro k w hw
      rcases Assoc.mem_store hw with rfl | hw
      · exact wellKeyed_mergeKeys v
      · exact inside k w hw

end

/-- What a text spells has no repeated keys, whatever the text. -/
theorem wellKeyed_of_parse? {s : String} (h : parse? s = some v) : v.WellKeyed := by
  obtain ⟨plain, -, rfl⟩ := Option.map_eq_some_iff.mp h
  exact wellKeyed_mergeKeys plain

/-- Only arrays and objects can be equal without being the same. -/
theorem eq_or_containers_of_equal (h : equal v w = true) : v = w ∨
    (∃ xs ys, v = .array xs ∧ w = .array ys) ∨ ∃ a b, v = .object a ∧ w = .object b := by
  cases v <;> cases w <;> simp_all [equal]

theorem equalItems_iff : equalItems xs ys = true ↔ xs.length = ys.length ∧
    ∀ (i : Nat) v w, xs[i]? = some v → ys[i]? = some w → equal v w = true := by
  induction xs generalizing ys with
  | nil => cases ys <;> simp [equalItems]
  | cons x xs ih =>
    cases ys with
    | nil => simp [equalItems]
    | cons y ys =>
      rw [equalItems, Bool.and_eq_true, ih]
      constructor
      · rintro ⟨hxy, hlen, hrest⟩
        refine ⟨by simp [hlen], ?_⟩
        intro i v w hv hw
        cases i with
        | zero =>
          cases hv
          cases hw
          exact hxy
        | succ i => exact hrest i v w hv hw
      · rintro ⟨hlen, hall⟩
        exact ⟨hall 0 x y rfl rfl, by simpa using hlen, fun i v w hv hw => hall (i + 1) v w hv hw⟩

theorem equalFields_iff : equalFields a b = true ↔
    ∀ key v, (key, v) ∈ a → ∃ w, Assoc.lookup key b = some w ∧ equal v w = true := by
  induction a with
  | nil => simp [equalFields]
  | cons field a ih =>
    obtain ⟨k, v⟩ := field
    rw [equalFields, Bool.and_eq_true, ih]
    constructor
    · rintro ⟨hfirst, hrest⟩ key u hu
      rcases List.mem_cons.mp hu with heq | hu
      · obtain ⟨rfl, rfl⟩ := Prod.mk.inj heq
        cases hl : Assoc.lookup key b with
        | none => simp [hl] at hfirst
        | some w => exact ⟨w, rfl, by simpa [hl] using hfirst⟩
      · exact hrest key u hu
    · intro hall
      refine ⟨?_, fun key u hu => hall key u (List.mem_cons_of_mem _ hu)⟩
      obtain ⟨w, hw, heq⟩ := hall k v List.mem_cons_self
      simpa [hw] using heq

theorem equal_array_iff : equal (.array xs) (.array ys) = true ↔ xs.length = ys.length ∧
    ∀ (i : Nat) v w, xs[i]? = some v → ys[i]? = some w → equal v w = true := by
  rw [equal, equalItems_iff]

theorem equal_object_iff : equal (.object a) (.object b) = true ↔ a.length = b.length ∧
    ∀ key v, (key, v) ∈ a → ∃ w, Assoc.lookup key b = some w ∧ equal v w = true := by
  rw [equal, Bool.and_eq_true, equalFields_iff, beq_iff_eq]

example : equal (.object [("a", .null), ("b", .bool true)])
    (.object [("b", .bool true), ("a", .null)]) = true := by cbv

/-- Equal objects have the same keys. -/
theorem keys_perm_of_equal (distinct : (a.map (·.1)).Nodup)
    (h : equal (.object a) (.object b) = true) : (a.map (·.1)).Perm (b.map (·.1)) := by
  obtain ⟨hlen, hall⟩ := equal_object_iff.mp h
  refine (List.subperm_of_subset distinct ?_).perm_of_length_le (by simp [hlen])
  intro key hkey
  obtain ⟨⟨_, v⟩, hv, rfl⟩ := List.mem_map.mp hkey
  obtain ⟨w, hw, -⟩ := hall _ v hv
  exact List.mem_map_of_mem (f := (·.1)) (Assoc.mem_of_lookup hw)

/-- What equal objects hold under a key. -/
theorem lookup_of_equal (distinct : (a.map (·.1)).Nodup)
    (h : equal (.object a) (.object b) = true) (key : String) :
    (Assoc.lookup key a = none ∧ Assoc.lookup key b = none) ∨
      ∃ v w, Assoc.lookup key a = some v ∧ Assoc.lookup key b = some w ∧ equal v w = true := by
  cases hv : Assoc.lookup key a with
  | none =>
    rw [Assoc.lookup_eq_none_iff, (keys_perm_of_equal distinct h).mem_iff] at hv
    exact .inl ⟨rfl, Assoc.lookup_eq_none_iff.mpr hv⟩
  | some v =>
    obtain ⟨w, hw, heq⟩ := (equal_object_iff.mp h).2 key v (Assoc.mem_of_lookup hv)
    exact .inr ⟨v, w, rfl, hw, heq⟩

theorem WellKeyed.equal_refl (hv : v.WellKeyed) : equal v v = true := by
  induction hv with
  | null => rfl
  | bool | number | string => simp [equal]
  | array _ ih =>
    refine equal_array_iff.mpr ⟨rfl, ?_⟩
    intro i v w hv hw
    obtain rfl : v = w := Option.some.inj (hv.symm.trans hw)
    exact ih v (List.mem_of_getElem? hv)
  | object distinct _ ih =>
    refine equal_object_iff.mpr ⟨rfl, ?_⟩
    intro key v hv
    exact ⟨v, Assoc.lookup_of_mem distinct hv, ih key v hv⟩

theorem WellKeyed.equal_symm (hv : v.WellKeyed) (h : equal v w = true) : equal w v = true := by
  induction hv generalizing w with
  | null | bool | number | string => cases w <;> simp_all [equal]
  | array _ ih =>
    cases w with
    | array ys =>
      obtain ⟨hlen, hall⟩ := equal_array_iff.mp h
      refine equal_array_iff.mpr ⟨hlen.symm, ?_⟩
      intro i y x hy hx
      exact ih x (List.mem_of_getElem? hx) (hall i x y hx hy)
    | _ => simp [equal] at h
  | @object a distinct _ ih =>
    cases w with
    | object b =>
      obtain ⟨hlen, hall⟩ := equal_object_iff.mp h
      have hdistinct := (keys_perm_of_equal distinct h).nodup_iff.mp distinct
      refine equal_object_iff.mpr ⟨hlen.symm, ?_⟩
      intro key y hy
      rcases lookup_of_equal distinct h key with ⟨-, hnone⟩ | ⟨x, z, hx, hz, hxz⟩
      · rw [Assoc.lookup_of_mem hdistinct hy] at hnone
        cases hnone
      · rw [Assoc.lookup_of_mem hdistinct hy] at hz
        cases hz
        exact ⟨x, hx, ih key x (Assoc.mem_of_lookup hx) hxz⟩
    | _ => simp [equal] at h

theorem WellKeyed.equal_trans (hu : u.WellKeyed) (huv : equal u v = true)
    (hvw : equal v w = true) : equal u w = true := by
  induction hu generalizing v w with
  | null | bool | number | string => cases v <;> cases w <;> simp_all [equal]
  | array _ ih =>
    cases v with
    | array ys =>
      cases w with
      | array zs =>
        obtain ⟨hxy, hleft⟩ := equal_array_iff.mp huv
        obtain ⟨hyz, hright⟩ := equal_array_iff.mp hvw
        refine equal_array_iff.mpr ⟨hxy.trans hyz, ?_⟩
        intro i x z hx hz
        have hlt : i < ys.length := by
          rw [hyz]
          exact (List.getElem?_eq_some_iff.mp hz).1
        have hy : ys[i]? = some ys[i] := List.getElem?_eq_getElem hlt
        exact ih x (List.mem_of_getElem? hx) (hleft i x _ hx hy) (hright i _ z hy hz)
      | _ => simp [equal] at hvw
    | _ => simp [equal] at huv
  | object _ _ ih =>
    cases v with
    | object b =>
      cases w with
      | object c =>
        obtain ⟨hab, hleft⟩ := equal_object_iff.mp huv
        obtain ⟨hbc, hright⟩ := equal_object_iff.mp hvw
        refine equal_object_iff.mpr ⟨hab.trans hbc, ?_⟩
        intro key x hx
        obtain ⟨y, hy, hxy⟩ := hleft key x hx
        obtain ⟨z, hz, hyz⟩ := hright key y (Assoc.mem_of_lookup hy)
        exact ⟨z, hz, ih key x hx hxy hyz⟩
      | _ => simp [equal] at hvw
    | _ => simp [equal] at huv

/-- Whether two values are equal does not change when equal ones stand for them. -/
theorem WellKeyed.equal_congr {x y : Json} (hv : v.WellKeyed) (hw : w.WellKeyed)
    (hx : x.WellKeyed) (hvx : equal v x = true) (hwy : equal w y = true) :
    equal v w = equal x y := by
  rw [Bool.eq_iff_iff]
  constructor
  · intro h
    exact hx.equal_trans (hv.equal_symm hvx) (hv.equal_trans h hwy)
  · intro h
    exact hv.equal_trans hvx (hx.equal_trans h (hw.equal_symm hwy))

end Conform.Json
