import Mathlib.Data.Nat.Find
import Conform.Proofs.Conformance
import Conform.Proofs.Places

/-!
Reports on arrays. Either something is wrong with the array itself, or the first element that does
not pass decides, and what comes after it is not looked at.
-/

namespace Conform
open Outcome

/-- Tuples need their required positions, and other arrays what the schema says. -/
def ArraySchema.least? {P : Type} (a : ArraySchema P) : Option Nat :=
  match a.mode with
  | .tuple required _ => some required.length
  | _ => a.minSize

/-- Tuples have no room beyond their positions, and other arrays what the schema says. -/
def ArraySchema.most? {P : Type} (a : ArraySchema P) : Option Nat :=
  match a.mode with
  | .tuple required optional => some (required.length + optional.length)
  | _ => a.maxSize

/-- Nothing is wrong with the array itself. -/
structure ArraySchema.Fits {P : Type} (a : ArraySchema P) (items : List Json) : Prop where
  distinct : a.unique = true → Distinct items
  least : ∀ least, a.least? = some least → least ≤ items.length
  most : ∀ most, a.most? = some most → items.length ≤ most

/-- A property describes the element at an index; the optional positions of a tuple follow the
required ones. -/
inductive ArrayMode.Describes {P : Type} : ArrayMode P → Nat → P → Prop where
  | element {p : P} {i : Nat} : Describes (.single p) i p
  | required {first later : List P} {i : Nat} {p : P} (h : first[i]? = some p) :
    Describes (.tuple first later) i p
  | optional {first later : List P} {i : Nat} {p : P} (h : later[i]? = some p) :
    Describes (.tuple first later) (first.length + i) p

namespace ArraySchema

/-- The check of the element at an index comes to this. -/
def Judges (a : ArraySchema Property) (items : List Json) (i : Nat)
    (verdict : Except Fault FieldErrors) : Prop :=
  ∃ p v, a.mode.Describes i p ∧ items[i]? = some v ∧ p.check v = verdict

/-- The element at an index is the first that does not pass. -/
structure StopsAt (a : ArraySchema Property) (items : List Json) (i : Nat)
    (verdict : Except Fault FieldErrors) : Prop where
  here : a.Judges items i verdict
  fails : ¬ Property.Clean verdict
  lower : ∀ j < i, ∀ passed, a.Judges items j passed → Property.Clean passed

end ArraySchema

/-- What an array schema says of an array. -/
inductive ArrayReport (a : ArraySchema Property) (items : List Json) :
    Except Fault ErrorMap → Prop where
  | duplicates (unique : a.unique = true) (repeated : ¬ Distinct items) :
    ArrayReport a items (.ok [("base", .messages ["duplicate items are not allowed"])])
  | tooFew {least : Nat} (distinct : a.unique = true → Distinct items)
    (bound : a.least? = some least) (few : items.length < least) :
    ArrayReport a items (.ok [("base", .messages ["expected at least " ++ toString least ++
      " item(s) but got " ++ toString items.length ++ " item(s)"])])
  | tooMany {most : Nat} (distinct : a.unique = true → Distinct items)
    (enough : ∀ least, a.least? = some least → least ≤ items.length)
    (bound : a.most? = some most) (many : most < items.length) :
    ArrayReport a items (.ok [("base", .messages ["expected at most " ++ toString most ++
      " item(s) but got " ++ toString items.length ++ " item(s)"])])
  | element {i : Nat} {e : FieldErrors} (fits : a.Fits items) (first : a.StopsAt items i (.ok e)) :
    ArrayReport a items (.ok [(toString i, e)])
  | fault {i : Nat} {f : Fault} (fits : a.Fits items) (first : a.StopsAt items i (.error f)) :
    ArrayReport a items (.error f)
  | clean (fits : a.Fits items)
    (passes : ∀ i verdict, a.Judges items i verdict → Property.Clean verdict) :
    ArrayReport a items (.ok [])

variable {a : ArraySchema Property} {items others : List Json} {i : Nat}
  {verdict : Except Fault FieldErrors}

theorem bounds_eq {P : Type} (a : ArraySchema P) :
    a.mode.bounds a.minSize a.maxSize = (a.least?, a.most?) := by
  unfold ArrayMode.bounds ArraySchema.least? ArraySchema.most?
  cases a.mode <;> rfl

theorem containerErrors_of_repeated (unique : a.unique = true) (repeated : ¬ Distinct items) :
    containerErrors a items = Message.duplicateItems.errors := by
  rw [← hasDuplicates_eq_false_iff, Bool.not_eq_false] at repeated
  rw [containerErrors, unique, repeated]
  rfl

/-- Unless elements are repeated, only the length counts. -/
theorem containerErrors_of_distinct (distinct : a.unique = true → Distinct items) :
    containerErrors a items = sizeErrors items.length a.least? a.most? := by
  have notRepeated : (a.unique && hasDuplicates items) = false := by
    rw [Bool.and_eq_false_imp]
    exact fun unique => hasDuplicates_eq_false_iff.mpr (distinct unique)
  rw [containerErrors, notRepeated, bounds_eq]
  rfl

theorem sizeErrors_of_few {length least : Nat} {most : Option Nat} (few : length < least) :
    sizeErrors length (some least) most = (Message.tooFew least length).errors :=
  if_pos few

theorem sizeErrors_of_many {length most : Nat} {least : Option Nat}
    (enough : ∀ n, least = some n → n ≤ length) (many : most < length) :
    sizeErrors length least (some most) = (Message.tooMany most length).errors := by
  cases least with
  | none => exact if_pos many
  | some n => exact (if_neg (Nat.not_lt.mpr (enough n rfl))).trans (if_pos many)

theorem containerErrors_eq_nil_iff_fitting : containerErrors a items = [] ↔ a.Fits items := by
  rw [containerErrors_eq_nil_iff_fits, bounds_eq]
  exact ⟨fun ⟨distinct, least, most⟩ => ⟨distinct, least, most⟩,
    fun fits => ⟨fits.distinct, fits.least, fits.most⟩⟩

theorem describes_iff {mode : ArrayMode Property} {p : Property} :
    mode.Describes i p ↔ mode.at? i = some p := by
  constructor
  · intro h
    cases h with
    | element => rfl
    | required h =>
      rw [ArrayMode.at?, List.getElem?_append_left (List.getElem?_eq_some_iff.mp h).1, h]
    | optional h =>
      rw [ArrayMode.at?, List.getElem?_append_right (Nat.le_add_right _ _),
        Nat.add_sub_cancel_left, h]
  · intro h
    cases mode with
    | unset => cases h
    | single element =>
      cases h
      exact .element
    | tuple first later =>
      rw [ArrayMode.at?, List.getElem?_append] at h
      split at h
      · exact .required h
      · rename_i hge
        have hsplit : i = first.length + (i - first.length) := by omega
        rw [hsplit]
        exact .optional h

/-- The verdicts are those of the elements next to what describes them. -/
theorem judges_iff :
    a.Judges items i verdict ↔
      ((a.mode.pairs items).map Property.pairVerdict)[i]? = some verdict := by
  rw [List.getElem?_map, ArrayMode.getElem?_pairs]
  constructor
  · rintro ⟨p, v, hp, hv, rfl⟩
    rw [describes_iff.mp hp, hv]
    rfl
  · intro h
    obtain ⟨⟨p, v⟩, hpair, rfl⟩ := Option.map_eq_some_iff.mp h
    obtain ⟨q, hq, hpair⟩ := Option.bind_eq_some_iff.mp hpair
    obtain ⟨w, hw, heq⟩ := Option.map_eq_some_iff.mp hpair
    cases heq
    exact ⟨_, _, describes_iff.mpr hq, hw, rfl⟩

namespace Property

/-- The first verdict that is not clean decides, whether it is a fault or not. -/
theorem firstVerdict_of_first {xs : List (Except Fault FieldErrors)} {start : Nat}
    (here : xs[i]? = some verdict) (fails : ¬ Clean verdict)
    (lower : ∀ j < i, ∀ passed, xs[j]? = some passed → Clean passed) :
    firstVerdict start xs = verdict.map fun e => [(toString (start + i), e)] := by
  induction xs generalizing start i with
  | nil => cases here
  | cons x xs ih =>
    rw [firstVerdict]
    cases i with
    | zero =>
      cases here
      cases verdict with
      | error f => rfl
      | ok e =>
        have hne : e.isEmpty = false := by
          rw [← Bool.not_eq_true]
          exact fun hempty => fails ⟨e, rfl, hempty⟩
        rw [ok_bind, hne]
        rfl
    | succ i =>
      obtain ⟨e, rfl, hempty⟩ := lower 0 (Nat.succ_pos i) x rfl
      rw [ok_bind, hempty, if_pos rfl,
        ih here fun j hj passed h => lower (j + 1) (Nat.succ_lt_succ hj) passed h,
        Nat.add_right_comm, Nat.add_assoc]

theorem arrayErrors_of_fits (fits : a.Fits items) :
    arrayErrors a (.array items) = firstVerdict 0 ((a.mode.pairs items).map pairVerdict) := by
  rw [arrayErrors_array, containerErrors_eq_nil_iff_fitting.mpr fits]
  rfl

theorem arrayErrors_of_stopsAt (fits : a.Fits items) (first : a.StopsAt items i verdict) :
    arrayErrors a (.array items) = verdict.map fun e => [(toString i, e)] := by
  rw [arrayErrors_of_fits fits, firstVerdict_of_first (judges_iff.mp first.here) first.fails
    fun j hj passed h => first.lower j hj passed (judges_iff.mpr h), Nat.zero_add]

theorem arrayErrors_of_clean (fits : a.Fits items)
    (passes : ∀ i verdict, a.Judges items i verdict → Clean verdict) :
    arrayErrors a (.array items) = .ok [] := by
  rw [arrayErrors_of_fits fits, firstVerdict_eq_ok_nil_iff]
  intro verdict hmem
  obtain ⟨i, hi⟩ := List.getElem?_of_mem hmem
  exact passes i verdict (judges_iff.mpr hi)

/-- Where something is wrong with the array itself, that is all there is to say. -/
theorem arrayErrors_of_message {m : Message} (h : containerErrors a items = m.errors) :
    arrayErrors a (.array items) = .ok m.errors := by
  rw [arrayErrors_array, h]
  rfl

theorem arrayErrors_of_reports {o : Except Fault ErrorMap} (report : ArrayReport a items o) :
    arrayErrors a (.array items) = o := by
  cases report with
  | duplicates unique repeated =>
    exact arrayErrors_of_message (containerErrors_of_repeated unique repeated)
  | @tooFew least distinct bound few =>
    refine arrayErrors_of_message (m := .tooFew least items.length) ?_
    rw [containerErrors_of_distinct distinct, bound, sizeErrors_of_few few]
  | @tooMany most distinct enough bound many =>
    refine arrayErrors_of_message (m := .tooMany most items.length) ?_
    rw [containerErrors_of_distinct distinct, bound, sizeErrors_of_many enough many]
  | element fits first => exact arrayErrors_of_stopsAt fits first
  | fault fits first => exact arrayErrors_of_stopsAt fits first
  | clean fits passes => exact arrayErrors_of_clean fits passes

/-- Some element is the first that does not pass, or all pass. -/
theorem stopsAt_or_passes (a : ArraySchema Property) (items : List Json) :
    (∃ i verdict, a.StopsAt items i verdict) ∨
      ∀ i verdict, a.Judges items i verdict → Clean verdict := by
  classical
  by_cases hex : ∃ i verdict, a.Judges items i verdict ∧ ¬ Clean verdict
  · obtain ⟨verdict, here, fails⟩ := Nat.find_spec hex
    refine .inl ⟨Nat.find hex, verdict, here, fails, ?_⟩
    intro j hj passed hjudged
    by_contra hnot
    exact Nat.find_min hex hj ⟨passed, hjudged, hnot⟩
  · refine .inr fun i verdict hjudged => ?_
    by_contra hnot
    exact hex ⟨i, verdict, hjudged, hnot⟩

/-- Some report applies to every array. -/
theorem exists_arrayReport (a : ArraySchema Property) (items : List Json) :
    ∃ o, ArrayReport a items o := by
  by_cases distinct : a.unique = true → Distinct items
  · by_cases enough : ∀ least, a.least? = some least → least ≤ items.length
    · by_cases room : ∀ most, a.most? = some most → items.length ≤ most
      · have fits : a.Fits items := ⟨distinct, enough, room⟩
        rcases stopsAt_or_passes a items with ⟨i, verdict, first⟩ | passes
        · cases verdict with
          | ok e => exact ⟨_, .element fits first⟩
          | error f => exact ⟨_, .fault fits first⟩
        · exact ⟨_, .clean fits passes⟩
      · push Not at room
        obtain ⟨most, bound, many⟩ := room
        exact ⟨_, .tooMany distinct enough bound many⟩
    · push Not at enough
      obtain ⟨least, bound, few⟩ := enough
      exact ⟨_, .tooFew distinct bound few⟩
  · push Not at distinct
    exact ⟨_, .duplicates distinct.1 distinct.2⟩

theorem arrayErrors_eq_iff_reports {o : Except Fault ErrorMap} :
    arrayErrors a (.array items) = o ↔ ArrayReport a items o := by
  constructor
  · rintro rfl
    obtain ⟨o, report⟩ := exists_arrayReport a items
    rwa [arrayErrors_of_reports report]
  · exact arrayErrors_of_reports

end Property

/-- Elements up to an index are judged alike in arrays that agree up to there. -/
theorem judges_of_take {j : Nat} (same : others.take (i + 1) = items.take (i + 1)) (hj : j ≤ i) :
    a.Judges others j verdict ↔ a.Judges items j verdict := by
  have found : others[j]? = items[j]? := by
    have h := congrArg (fun values : List Json => values[j]?) same
    simpa only [List.getElem?_take_of_lt (Nat.lt_succ_of_le hj)] using h
  rw [ArraySchema.Judges, ArraySchema.Judges, found]

theorem ArraySchema.StopsAt.of_take (first : a.StopsAt items i verdict)
    (same : others.take (i + 1) = items.take (i + 1)) : a.StopsAt others i verdict :=
  ⟨(judges_of_take same le_rfl).mpr first.here, first.fails, fun j hj passed h =>
    first.lower j hj passed ((judges_of_take same (Nat.le_of_lt hj)).mp h)⟩

/-- The report on an array is exact: repeated elements before the length, the lower bound before the
upper one, and then the first element that does not pass, by its errors under its index or by the
fault that it comes to. Elements after that one make no difference to an array that fits. -/
theorem array_reports_are_exact (a : ArraySchema Property) (items : List Json) :
    (∀ o, Property.arrayErrors a (.array items) = o ↔ ArrayReport a items o) ∧
    ∀ i verdict, a.Fits items → a.StopsAt items i verdict → ∀ others : List Json,
      a.Fits others → others.take (i + 1) = items.take (i + 1) →
        Property.arrayErrors a (.array others) = Property.arrayErrors a (.array items) := by
  refine ⟨fun o => Property.arrayErrors_eq_iff_reports, ?_⟩
  intro i verdict fits first others fits' same
  rw [Property.arrayErrors_of_stopsAt fits first,
    Property.arrayErrors_of_stopsAt fits' (first.of_take same)]

/-- A name may be followed by a number and by a flag. The second position is wrong, and so is the
third, of which nothing is told; with a good third element the report is the same. -/
theorem second_position_decides :
    let leaf (kind : String) (test : TypeTest) : Property := .leaf ⟨kind, test, true, false, []⟩
    let a : ArraySchema Property := ⟨.tuple [leaf "string" .string]
      [leaf "integer" .integer, leaf "boolean" .boolean], true, none, some 2, true, false⟩
    let items : List Json := [.string "a", .string "b", .null]
    let others : List Json := [.string "a", .string "b", .bool true]
    let verdict : Except Fault FieldErrors := .ok (.messages ["wrong type"])
    a.Fits items ∧ a.StopsAt items 1 verdict ∧ a.Fits others ∧
      others.take 2 = items.take 2 ∧
      ArrayReport a items (.ok [("1", .messages ["wrong type"])]) ∧
      Property.arrayErrors a (.array others) = .ok [("1", .messages ["wrong type"])] := by
  intro leaf a items others verdict
  have fits : a.Fits items := containerErrors_eq_nil_iff_fitting.mp rfl
  have fits' : a.Fits others := containerErrors_eq_nil_iff_fitting.mp rfl
  have first : a.StopsAt items 1 verdict := by
    refine ⟨⟨_, _, .optional (i := 0) rfl, rfl, rfl⟩, ?_, ?_⟩
    · rintro ⟨e, he, hempty⟩
      cases Except.ok.inj he
      cases hempty
    · intro j hj passed hjudged
      obtain rfl : j = 0 := by omega
      cases judges_iff.mp hjudged
      exact ⟨_, rfl, rfl⟩
  have found : Property.arrayErrors a (.array items) = .ok [("1", .messages ["wrong type"])] :=
    Property.arrayErrors_of_stopsAt fits first
  obtain ⟨exact_report, unseen⟩ := array_reports_are_exact a items
  exact ⟨fits, first, fits', rfl, (exact_report _).mp found,
    (unseen 1 verdict fits first others fits' rfl).trans found⟩

end Conform
