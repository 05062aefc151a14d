import Conform.Proofs.Conformance
import Conform.Proofs.Equality
import Conform.Proofs.Judgement

/-!
Documents that are equal as JSON values. However their keys are ordered, and at whatever depth, a
schema says the same of them.
-/

namespace Conform
open Outcome

variable {p : Property} {l : Leaf} {h : HashSchema Property} {a : ArraySchema Property}
variable {v w : Json} {xs ys : List Json} {fields others : List (String × Json)}

namespace Property

/-- Every leaf tests for a builtin type. The validators may come from anywhere: they only meet
scalars. -/
def IsTyped (p : Property) : Prop := ∀ l, Occurs l p → l.test.IsBuiltin

@[simp]
theorem isTyped_leaf_iff : (leaf l).IsTyped ↔ l.test.IsBuiltin := by
  constructor
  · intro hp
    exact hp l .leaf
  · rintro hl _ ⟨⟩
    exact hl

@[simp]
theorem isTyped_hash_iff :
    (hash h).IsTyped ↔ ∀ entry ∈ h.properties, entry.2.IsTyped := by
  constructor
  · intro hp entry hmem l hl
    exact hp l (.field hmem hl)
  · intro hall l hl
    cases hl with
    | field hmem hl => exact hall _ hmem l hl

@[simp]
theorem isTyped_array_iff : (array a).IsTyped ↔ ∀ p ∈ a.mode.properties, p.IsTyped := by
  constructor
  · intro hp p hmem l hl
    exact hp l (.element hmem hl)
  · intro hall l hl
    cases hl with
    | element hmem hl => exact hall _ hmem l hl

/-- A check that cannot tell equal values apart. -/
def RespectsEquality (p : Property) : Prop :=
  ∀ v w : Json, v.WellKeyed → w.WellKeyed → v.equal w = true → p.check v = p.check w

end Property

/-- A builtin type has only scalars and null for values. -/
theorem Leaf.check_array (hl : l.test.IsBuiltin) : l.check (.array xs) =
    .ok Message.wrongType.field := by
  obtain ⟨_, test, _, _, _⟩ := l
  cases test with
  | custom => exact hl.elim
  | _ => rfl

theorem Leaf.check_object (hl : l.test.IsBuiltin) : l.check (.object fields) =
    .ok Message.wrongType.field := by
  obtain ⟨_, test, _, _, _⟩ := l
  cases test with
  | custom => exact hl.elim
  | _ => rfl

theorem Leaf.check_eq_of_equal (hl : l.test.IsBuiltin) (heq : v.equal w = true) :
    l.check v = l.check w := by
  rcases Json.eq_or_containers_of_equal heq with rfl | ⟨xs, ys, rfl, rfl⟩ | ⟨_, _, rfl, rfl⟩
  · rfl
  · rw [check_array hl, check_array hl]
  · rw [check_object hl, check_object hl]

namespace Property

/-- Equal objects have the same keys, so the same of them are declared. -/
theorem undeclared_eq_of_equal (hv : (Json.object fields).WellKeyed)
    (heq : (Json.object fields).equal (.object others) = true) :
    undeclared h fields = undeclared h others := by
  cases hv with
  | object distinct _ =>
    have hkeys := Json.keys_perm_of_equal distinct heq
    have hany : ∀ fs : List (String × Json),
        (fs.any fun field => !Assoc.contains field.1 h.properties) =
          (fs.map (·.1)).any fun key => !Assoc.contains key h.properties := by
      intro fs
      rw [List.any_map]
      rfl
    rw [undeclared, undeclared, hany, hany, hkeys.any_eq]

theorem fieldVerdict_eq_of_equal {name : String} (hp : p.RespectsEquality)
    (hv : (Json.object fields).WellKeyed) (hw : (Json.object others).WellKeyed)
    (heq : (Json.object fields).equal (.object others) = true) :
    fieldVerdict fields (name, p) = fieldVerdict others (name, p) := by
  cases hv with
  | object distinct inside =>
    cases hw with
    | object _ inside' =>
      rcases Json.lookup_of_equal distinct heq name with ⟨hx, hy⟩ | ⟨x, y, hx, hy, hxy⟩
      · rw [fieldVerdict_absent hx, fieldVerdict_absent hy]
      · rw [fieldVerdict_present hx, fieldVerdict_present hy]
        exact hp x y (inside _ x (Assoc.mem_of_lookup hx)) (inside' _ y (Assoc.mem_of_lookup hy))
          hxy

/-- The fields are found by name and their errors are added in the order of the declarations. -/
theorem checkFields_eq_of_equal {ps : List (String × Property)} {errors : ErrorMap}
    (hps : ∀ name p, (name, p) ∈ ps → p.RespectsEquality)
    (hv : (Json.object fields).WellKeyed) (hw : (Json.object others).WellKeyed)
    (heq : (Json.object fields).equal (.object others) = true) :
    checkFields fields ps errors = checkFields others ps errors := by
  apply checkFields_congr
  rintro ⟨name, p⟩ hmem
  exact fieldVerdict_eq_of_equal (hps name p hmem) hv hw heq

theorem hashErrors_eq_of_equal (inside : ∀ name p, (name, p) ∈ h.properties → p.RespectsEquality)
    (hv : v.WellKeyed) (hw : w.WellKeyed) (heq : v.equal w = true) :
    hashErrors h v = hashErrors h w := by
  rcases Json.eq_or_containers_of_equal heq with rfl | ⟨xs, ys, rfl, rfl⟩ |
    ⟨fields, others, rfl, rfl⟩
  · rfl
  · rw [hashErrors_of_ne_object h (by simp), hashErrors_of_ne_object h (by simp)]
    rfl
  · rw [hashErrors_object, hashErrors_object, undeclared_eq_of_equal hv heq,
      checkFields_eq_of_equal inside hv hw heq]

end Property

/-- Duplicates are told by the same equality, so equal arrays have them in the same places. -/
theorem hasDuplicates_eq_of_equal (hv : (Json.array xs).WellKeyed) (hw : (Json.array ys).WellKeyed)
    (heq : (Json.array xs).equal (.array ys) = true) : hasDuplicates xs = hasDuplicates ys := by
  obtain ⟨hlen, hall⟩ := Json.equal_array_iff.mp heq
  cases hv with
  | array hxs =>
    cases hw with
    | array hys =>
      have hsame : ∀ i j, (hi : i < xs.length) → (hj : j < xs.length) →
          (xs[i] == xs[j]) = (ys[i] == ys[j]) := by
        intro i j hi hj
        refine Json.WellKeyed.equal_congr (hxs _ (List.getElem_mem hi))
          (hxs _ (List.getElem_mem hj)) (hys _ (List.getElem_mem (hlen ▸ hi))) ?_ ?_
        · exact hall i _ _ (List.getElem?_eq_getElem hi) (List.getElem?_eq_getElem (hlen ▸ hi))
        · exact hall j _ _ (List.getElem?_eq_getElem hj) (List.getElem?_eq_getElem (hlen ▸ hj))
      rw [Bool.eq_iff_iff, ← Bool.not_eq_false, ← Bool.not_eq_false, hasDuplicates_eq_false_iff,
        hasDuplicates_eq_false_iff, not_iff_not]
      constructor
      · intro hd i j hij hj
        rw [← hsame i j (by omega) (by omega)]
        exact hd i j hij (by omega)
      · intro hd i j hij hj
        rw [hsame i j (by omega) hj]
        exact hd i j hij (by omega)

theorem containerErrors_eq_of_equal (hv : (Json.array xs).WellKeyed)
    (hw : (Json.array ys).WellKeyed) (heq : (Json.array xs).equal (.array ys) = true) :
    containerErrors a xs = containerErrors a ys := by
  have hlen : xs.length = ys.length := (Json.equal_array_iff.mp heq).1
  rw [containerErrors, containerErrors, hasDuplicates_eq_of_equal hv hw heq, hlen]

namespace Property

/-- Equal arrays have equal elements at the same positions, where the same properties stand. -/
theorem pairVerdicts_eq_of_equal (inside : ∀ p ∈ a.mode.properties, p.RespectsEquality)
    (hv : (Json.array xs).WellKeyed) (hw : (Json.array ys).WellKeyed)
    (heq : (Json.array xs).equal (.array ys) = true) :
    (a.mode.pairs xs).map pairVerdict = (a.mode.pairs ys).map pairVerdict := by
  obtain ⟨hlen, hall⟩ := Json.equal_array_iff.mp heq
  cases hv with
  | array hxs =>
    cases hw with
    | array hys =>
      apply List.ext_getElem?
      intro i
      rw [List.getElem?_map, List.getElem?_map, ArrayMode.getElem?_pairs, ArrayMode.getElem?_pairs]
      cases hp : a.mode.at? i with
      | none => rfl
      | some p =>
        by_cases hi : i < xs.length
        · have hx := List.getElem?_eq_getElem hi
          have hy := List.getElem?_eq_getElem (l := ys) (hlen ▸ hi)
          have hcheck := inside p (ArrayMode.mem_of_at? hp) xs[i] ys[i]
            (hxs _ (List.getElem_mem hi)) (hys _ (List.getElem_mem (hlen ▸ hi)))
            (hall i _ _ hx hy)
          simp [hx, hy, pairVerdict, hcheck]
        · have hx : xs[i]? = none := List.getElem?_eq_none (by omega)
          have hy : ys[i]? = none := List.getElem?_eq_none (by omega)
          rw [hx, hy]

theorem arrayErrors_eq_of_equal (inside : ∀ p ∈ a.mode.properties, p.RespectsEquality)
    (hv : v.WellKeyed) (hw : w.WellKeyed) (heq : v.equal w = true) :
    arrayErrors a v = arrayErrors a w := by
  rcases Json.eq_or_containers_of_equal heq with rfl | ⟨xs, ys, rfl, rfl⟩ |
    ⟨fields, others, rfl, rfl⟩
  · rfl
  · rw [arrayErrors_array, arrayErrors_array, containerErrors_eq_of_equal hv hw heq,
      pairVerdicts_eq_of_equal inside hv hw heq]
  · rw [arrayErrors_of_ne_array a (by simp), arrayErrors_of_ne_array a (by simp)]
    rfl

theorem IsTyped.respectsEquality (hp : p.IsTyped) : p.RespectsEquality := by
  induction p with
  | leaf l =>
    intro v w _ _ heq
    exact Leaf.check_eq_of_equal (isTyped_leaf_iff.mp hp) heq
  | hash h ih =>
    intro v w hv hw heq
    have inside : ∀ name p, (name, p) ∈ h.properties → p.RespectsEquality := fun name p hmem =>
      ih name p hmem (isTyped_hash_iff.mp hp _ hmem)
    rw [check, check, hashErrors_eq_of_equal inside hv hw heq]
  | array a ih =>
    intro v w hv hw heq
    have inside : ∀ p ∈ a.mode.properties, p.RespectsEquality := fun p hmem =>
      ih p hmem (isTyped_array_iff.mp hp p hmem)
    rw [check, check, arrayErrors_eq_of_equal inside hv hw heq]

end Property

/-- Equal documents are judged alike: the same errors in the same order, or the same fault. -/
theorem validate_eq_of_equal {s : Schema} {document other : Json} (hs : s.toProperty.IsTyped)
    (hd : document.WellKeyed) (ho : other.WellKeyed) (heq : (document == other) = true) :
    s.validate document = s.validate other := by
  cases s with
  | hash h =>
    have inside := Property.isTyped_hash_iff.mp hs
    exact Property.hashErrors_eq_of_equal
      (fun name p hmem => (inside (name, p) hmem).respectsEquality) hd ho heq
  | array a =>
    have inside := Property.isTyped_array_iff.mp hs
    exact Property.arrayErrors_eq_of_equal (fun p hmem => (inside p hmem).respectsEquality) hd ho
      heq

/-- The keys of a record, of a part of it and of the elements of an array stand in another order.
Both documents repeat an element and have the same two fields wrong. -/
theorem reordered_records_judged_alike :
    let low : Leaf := ⟨"integer", .integer, true, false, [.comparison .greaterThan (.ofNat 3)]⟩
    let high : Leaf := ⟨"string", .string, true, false, []⟩
    let s : Schema := .hash ⟨[
      ("items", .array ⟨.unset, true, none, none, true, false⟩),
      ("limits", .hash ⟨[("low", .leaf low), ("high", .leaf high)], true, true, false⟩)],
      true, true, false⟩
    let one : Json := .number (.ofNat 1)
    let document : Json := .object [
      ("limits", .object [("low", one), ("high", one)]),
      ("items", .array [.object [("key", one), ("value", .null)],
        .object [("value", .null), ("key", one)]])]
    let other : Json := .object [
      ("items", .array [.object [("value", .null), ("key", one)],
        .object [("value", .null), ("key", one)]]),
      ("limits", .object [("high", one), ("low", one)])]
    s.toProperty.IsTyped ∧ document.WellKeyed ∧ other.WellKeyed ∧ (document == other) = true ∧
      s.validate document = .ok [("items", .nested Message.duplicateItems.errors),
        ("limits", .nested [
          ("low", .messages [(Validator.comparison .greaterThan (.ofNat 3)).message]),
          ("high", Message.wrongType.field)])] ∧
      s.validate other = s.validate document := by
  intro low high s one document other
  have hs : s.toProperty.IsTyped := by
    simp [s, Schema.toProperty, ArrayMode.properties, low, high, TypeTest.IsBuiltin]
  have hd : document.WellKeyed := Json.wellKeyed_mergeKeys document
  have ho : other.WellKeyed := Json.wellKeyed_mergeKeys other
  have heq : (document == other) = true := rfl
  have hok : s.validate document = _ := rfl
  exact ⟨hs, hd, ho, heq, hok, (validate_eq_of_equal hs hd ho heq).symm⟩

end Conform
