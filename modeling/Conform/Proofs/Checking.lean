import Conform.Property
import Conform.Proofs.Outcome

/-!
What a check comes down to: the verdicts it takes, in order, and how they add up.
-/

namespace Conform
open Outcome

/-- The properties of which an array's description is made. -/
def ArrayMode.properties {P : Type} : ArrayMode P → List P
  | unset => []
  | single element => [element]
  | tuple required optional => required ++ optional

/-- What holds of a container when it holds of all properties inside holds of every property. -/
@[elab_as_elim, induction_eliminator]
theorem Property.induct {motive : Property → Prop}
    (leaf : ∀ l, motive (.leaf l))
    (hash : ∀ h : HashSchema Property, (∀ name p, (name, p) ∈ h.properties → motive p) →
      motive (.hash h))
    (array : ∀ a : ArraySchema Property, (∀ p ∈ a.mode.properties, motive p) → motive (.array a))
    (p : Property) : motive p := by
  refine @Property.rec motive
    (fun h => ∀ name p, (name, p) ∈ h.properties → motive p)
    (fun a => ∀ p ∈ a.mode.properties, motive p)
    (fun ps => ∀ name p, (name, p) ∈ ps → motive p)
    (fun mode => ∀ p ∈ mode.properties, motive p)
    (fun entry => motive entry.2)
    (fun ps => ∀ p ∈ ps, motive p)
    leaf hash array ?_ ?_ ?_ ?_ ?_ ?_ ?_ ?_ ?_ ?_ p
  · intro ps _ _ _ ih
    exact ih
  · intro mode _ _ _ _ _ ih
    exact ih
  · simp
  · intro entry ps he ih name p hp
    rcases List.mem_cons.mp hp with rfl | hp
    · exact he
    · exact ih name p hp
  · simp [ArrayMode.properties]
  · intro element ih
    simpa [ArrayMode.properties] using ih
  · intro required optional ihr iho p hp
    rcases List.mem_append.mp hp with hp | hp
    · exact ihr p hp
    · exact iho p hp
  · intro _ p ih
    exact ih
  · simp
  · intro p ps hp ih q hq
    rcases List.mem_cons.mp hq with rfl | hq
    · exact hp
    · exact ih q hq

/-- A message that is collected once. -/
def note (message : String) (messages : List String) : List String :=
  if messages.contains message then messages else messages ++ [message]

theorem note_ne_nil (message : String) (messages : List String) : note message messages ≠ [] := by
  unfold note
  split
  · rintro rfl
    simp_all
  · simp

theorem mem_note {message m : String} {messages : List String} :
    m ∈ note message messages ↔ m ∈ messages ∨ m = message := by
  unfold note
  split
  · rename_i hmem
    simp only [List.contains_iff_mem] at hmem
    constructor
    · exact .inl
    · rintro (hm | rfl)
      · exact hm
      · exact hmem
  · simp

namespace Leaf
variable {value : Json} {ws : List Validator} {messages : List String} {f : Fault}

theorem runValidators_eq_foldlM (value : Json) (ws : List Validator) (messages : List String) :
    runValidators value ws messages = ws.foldlM (fun messages w =>
      (w.judge value).map fun accepted => if accepted then messages else note w.message messages)
      messages := by
  induction ws generalizing messages with
  | nil => rfl
  | cons w ws ih =>
    rw [runValidators, List.foldlM_cons]
    cases w.judge value with
    | error f => rfl
    | ok accepted =>
      rw [ok_bind, ok_map, ok_bind, ← ih]
      cases accepted with
      | true => rfl
      | false =>
        simp only [Bool.false_eq_true, if_false, note]
        split <;> rfl

theorem runValidators_eq_ok_nil_iff :
    runValidators value ws [] = .ok [] ↔ ∀ w ∈ ws, w.judge value = .ok true := by
  rw [runValidators_eq_foldlM, foldlM_eq_ok_nil_iff (· = true)]
  · simp
  · intro messages w accepted
    cases accepted <;> simp [note_ne_nil]

theorem runValidators_eq_error_iff :
    runValidators value ws messages = .error f ↔
      FirstAt (fun w => ∃ b, w.judge value = .ok b) (fun w => w.judge value = .error f) ws := by
  rw [runValidators_eq_foldlM, foldlM_eq_error_iff]

end Leaf

theorem Message.errors_ne_nil (m : Message) : m.errors ≠ [] := List.cons_ne_nil _ _

theorem FieldErrors.ofMap_isEmpty (m : ErrorMap) : (FieldErrors.ofMap m).isEmpty = m.isEmpty := by
  unfold FieldErrors.ofMap
  split
  · simp_all [FieldErrors.none, FieldErrors.isEmpty]
  · rfl

namespace ErrorMap

theorem insert_eq_nil_iff {name : String} {errors : FieldErrors} {m : ErrorMap} :
    m.insert name errors = [] ↔ m = [] ∧ errors.isEmpty := by
  unfold ErrorMap.insert
  split
  · simp [*]
  · cases m with
    | nil => simp [Assoc.store, *]
    | cons entry m =>
      simp only [Assoc.store]
      split <;> simp

end ErrorMap

namespace Property

theorem missing_not_isEmpty (p : Property) : p.missing.isEmpty = false := by
  cases p <;> rfl

/-- Keys that a strict hash does not declare. -/
def undeclared (h : HashSchema Property) (fields : List (String × Json)) : Bool :=
  h.strict && fields.any fun field => !Assoc.contains field.1 h.properties

/-- The verdict on one declared property; a key that may be absent gives no errors. -/
def fieldVerdict (fields : List (String × Json)) (entry : String × Property) :
    Except Fault FieldErrors :=
  match Assoc.lookup entry.1 fields with
  | some value => entry.2.check value
  | none => .ok (if entry.2.isRequired then entry.2.missing else .none)

theorem fieldVerdict_present {fields : List (String × Json)} {name : String} {p : Property}
    {value : Json} (h : Assoc.lookup name fields = some value) :
    fieldVerdict fields (name, p) = p.check value := by
  simp [fieldVerdict, h]

theorem fieldVerdict_absent {fields : List (String × Json)} {name : String} {p : Property}
    (h : Assoc.lookup name fields = none) :
    fieldVerdict fields (name, p) = .ok (if p.isRequired then p.missing else .none) := by
  simp [fieldVerdict, h]

theorem checkFields_eq_foldlM (fields : List (String × Json)) (ps : List (String × Property))
    (errors : ErrorMap) :
    checkFields fields ps errors = ps.foldlM (fun (errors : ErrorMap) entry =>
      (fieldVerdict fields entry).map fun found => errors.insert entry.1 found) errors := by
  induction ps generalizing errors with
  | nil => rfl
  | cons entry ps ih =>
    obtain ⟨name, p⟩ := entry
    rw [checkFields, List.foldlM_cons]
    cases hl : Assoc.lookup name fields with
    | some value =>
      rw [fieldVerdict_present hl]
      dsimp only
      cases p.check value with
      | error f => rfl
      | ok found => exact ih _
    | none =>
      rw [fieldVerdict_absent hl, ok_map, ok_bind, ← ih]
      dsimp only
      split
      · rfl
      · rfl

/-- Of the fields only the verdicts on what is declared count. -/
theorem checkFields_congr {fields others : List (String × Json)} {ps : List (String × Property)}
    {errors : ErrorMap} (h : ∀ entry ∈ ps, fieldVerdict fields entry = fieldVerdict others entry) :
    checkFields fields ps errors = checkFields others ps errors := by
  rw [checkFields_eq_foldlM, checkFields_eq_foldlM]
  apply foldlM_congr
  intro entry hentry errors
  rw [h entry hentry]

theorem hashErrors_object (h : HashSchema Property) (fields : List (String × Json)) :
    hashErrors h (.object fields) =
      if undeclared h fields then .ok Message.undeclaredKeys.errors
      else checkFields fields h.properties [] := by
  rw [hashErrors]
  rfl

theorem refusal_eq_nil_iff {allowNil : Bool} {v : Json} :
    refusal allowNil v = [] ↔ v = .null ∧ allowNil = true := by
  cases v <;> cases allowNil <;> simp [refusal, Json.isNull, Message.errors_ne_nil]

/-- What is not an object is settled without any verdict on a property. -/
theorem hashErrors_of_ne_object (h : HashSchema Property) {v : Json}
    (hv : ∀ fields, v ≠ .object fields) : hashErrors h v = .ok (refusal h.allowNil v) := by
  obtain ⟨properties, strict, required, allowNil⟩ := h
  cases v with
  | object fields => exact (hv fields rfl).elim
  | _ => rfl

/-- A verdict that finds nothing wrong. -/
def Clean (verdict : Except Fault FieldErrors) : Prop :=
  ∃ found, verdict = .ok found ∧ found.isEmpty = true

/-- Verdicts on elements from an index on, up to the first that is not clean. -/
def firstVerdict : Nat → List (Except Fault FieldErrors) → Except Fault ErrorMap
  | _, [] => .ok []
  | index, verdict :: rest => do
    let found ← verdict
    if found.isEmpty then firstVerdict (index + 1) rest
    else return [(toString index, found)]

theorem firstFailure_eq_firstVerdict (check : Json → Except Fault FieldErrors) (index : Nat)
    (values : List Json) :
    firstFailure check index values = firstVerdict index (values.map check) := by
  induction values generalizing index with
  | nil => rfl
  | cons value values ih =>
    rw [firstFailure, List.map_cons, firstVerdict]
    cases check value with
    | error f => rfl
    | ok found =>
      rw [ok_bind, ok_bind, ih]

/-- The verdict on an element from the property that describes it. -/
def pairVerdict (pair : Property × Json) : Except Fault FieldErrors := pair.1.check pair.2

theorem checkPositions_eq_firstVerdict (index : Nat) (ps : List Property) (values : List Json) :
    checkPositions index ps values = firstVerdict index ((ps.zip values).map pairVerdict) := by
  induction ps generalizing index values with
  | nil => simp [checkPositions, firstVerdict]
  | cons p ps ih =>
    cases values with
    | nil => simp [checkPositions, firstVerdict]
    | cons value values =>
      rw [checkPositions, List.zip_cons_cons, List.map_cons, firstVerdict]
      cases hp : p.check value with
      | error f => simp [pairVerdict, hp]
      | ok found => simp [pairVerdict, hp, ih]

theorem firstVerdict_append {index : Nat} {xs ys : List (Except Fault FieldErrors)} :
    firstVerdict index (xs ++ ys) = do
      let errors ← firstVerdict index xs
      if errors.isEmpty then firstVerdict (index + xs.length) ys else return errors := by
  induction xs generalizing index with
  | nil => simp [firstVerdict]
  | cons x xs ih =>
    rw [List.cons_append, firstVerdict, firstVerdict]
    cases x with
    | error f => rfl
    | ok found =>
      rw [ok_bind, ok_bind]
      split
      · rw [ih, List.length_cons, Nat.add_right_comm, Nat.add_assoc]
      · rfl

theorem firstVerdict_eq_ok_nil_iff {index : Nat} {xs : List (Except Fault FieldErrors)} :
    firstVerdict index xs = .ok [] ↔ ∀ x ∈ xs, Clean x := by
  induction xs generalizing index with
  | nil => simp [firstVerdict]
  | cons x xs ih =>
    rw [firstVerdict]
    cases x with
    | error f => simp [Clean]
    | ok found =>
      rw [ok_bind]
      split <;> simp [Clean, *]

theorem firstVerdict_eq_error_iff {index : Nat} {xs : List (Except Fault FieldErrors)} {f : Fault} :
    firstVerdict index xs = .error f ↔ FirstAt Clean (· = .error f) xs := by
  induction xs generalizing index with
  | nil => simp [firstVerdict]
  | cons x xs ih =>
    rw [firstVerdict, firstAt_cons]
    cases x with
    | error f => simp [Clean]
    | ok found =>
      rw [ok_bind]
      split <;> simp [Clean, *]

end Property

namespace ArrayMode
variable {P : Type}

/-- Every element next to the property that describes it. -/
def pairs : ArrayMode P → List Json → List (P × Json)
  | unset, _ => []
  | single element, items => items.map fun item => (element, item)
  | tuple required optional, items => (required ++ optional).zip items

theorem mem_of_mem_pairs {mode : ArrayMode P} {items : List Json} {p : P} {v : Json}
    (h : (p, v) ∈ mode.pairs items) : p ∈ mode.properties ∧ v ∈ items := by
  cases mode with
  | unset => simp [pairs] at h
  | single element =>
    obtain ⟨w, hw, heq⟩ := List.mem_map.mp h
    obtain ⟨rfl, rfl⟩ := Prod.mk.inj heq
    exact ⟨by simp [properties], hw⟩
  | tuple required optional => exact ⟨(List.of_mem_zip h).1, (List.of_mem_zip h).2⟩

/-- What describes the element at a position. -/
def at? : ArrayMode P → Nat → Option P
  | unset, _ => none
  | single element, _ => some element
  | tuple required optional, i => (required ++ optional)[i]?

theorem mem_of_at? {mode : ArrayMode P} {i : Nat} {p : P} (hp : mode.at? i = some p) :
    p ∈ mode.properties := by
  cases mode with
  | unset => cases hp
  | single element =>
    cases hp
    exact List.mem_singleton.mpr rfl
  | tuple required optional => exact List.mem_of_getElem? hp

theorem getElem?_pairs (mode : ArrayMode P) (items : List Json) (i : Nat) :
    (mode.pairs items)[i]? = (mode.at? i).bind fun p => items[i]?.map fun v => (p, v) := by
  cases mode with
  | unset => rfl
  | single element => simp [pairs, at?]
  | tuple required optional =>
    rw [pairs, at?, List.zip, List.getElem?_zipWith]
    cases (required ++ optional)[i]? <;> cases items[i]? <;> rfl

end ArrayMode

theorem append_zip {α β : Type} (xs ys : List α) (zs : List β) :
    (xs ++ ys).zip zs = xs.zip zs ++ ys.zip (zs.drop xs.length) := by
  induction xs generalizing zs with
  | nil => simp
  | cons x xs ih =>
    cases zs with
    | nil => simp
    | cons z zs => simp [ih]

theorem sizeErrors_eq_nil_iff {length : Nat} {minSize maxSize : Option Nat} :
    sizeErrors length minSize maxSize = [] ↔
      (∀ least ∈ minSize, least ≤ length) ∧ ∀ most ∈ maxSize, length ≤ most := by
  cases minSize <;> cases maxSize <;> simp only [sizeErrors] <;> (try split) <;> (try split) <;>
    simp [Message.errors_ne_nil] <;> omega

theorem containerErrors_eq_nil_iff {P : Type} {a : ArraySchema P} {items : List Json} :
    containerErrors a items = [] ↔ (a.unique = true → hasDuplicates items = false) ∧
      sizeErrors items.length (a.mode.bounds a.minSize a.maxSize).1
        (a.mode.bounds a.minSize a.maxSize).2 = [] := by
  unfold containerErrors
  split
  · simp_all [Message.errors_ne_nil]
  · simp_all

namespace Property

/-- Once nothing is wrong with the array itself, its errors are those of the first element that
has any. -/
theorem arrayErrors_array (a : ArraySchema Property) (items : List Json) :
    arrayErrors a (.array items) =
      if (containerErrors a items).isEmpty then
        firstVerdict 0 ((a.mode.pairs items).map pairVerdict)
      else .ok (containerErrors a items) := by
  obtain ⟨mode, unique, minSize, maxSize, required, allowNil⟩ := a
  cases mode with
  | unset =>
    change (if !(containerErrors _ items).isEmpty then _ else _) = _
    cases (containerErrors _ items).isEmpty <;> rfl
  | single element =>
    change (if !(containerErrors _ items).isEmpty then _ else
      firstFailure (fun v => element.check v) 0 items) = _
    rw [firstFailure_eq_firstVerdict, ArrayMode.pairs, List.map_map]
    cases (containerErrors _ items).isEmpty <;> rfl
  | tuple first later =>
    change (if !(containerErrors _ items).isEmpty then _ else do
      let errors ← checkPositions 0 first items
      if errors.isEmpty then checkPositions first.length later (items.drop first.length)
      else return errors) = _
    cases hc : (containerErrors _ items).isEmpty with
    | false => rfl
    | true =>
      have hsize := (containerErrors_eq_nil_iff.mp (List.isEmpty_iff.mp hc)).2
      have hle : first.length ≤ items.length := (sizeErrors_eq_nil_iff.mp hsize).1 _ rfl
      have hlen : ((first.zip items).map pairVerdict).length = first.length := by simp [hle]
      simp only [checkPositions_eq_firstVerdict, ArrayMode.pairs, append_zip, List.map_append,
        firstVerdict_append, hlen, Nat.zero_add]
      rfl

theorem arrayErrors_of_ne_array (a : ArraySchema Property) {v : Json}
    (hv : ∀ items, v ≠ .array items) : arrayErrors a v = .ok (refusal a.allowNil v) := by
  obtain ⟨mode, unique, minSize, maxSize, required, allowNil⟩ := a
  cases v with
  | array items => exact (hv items rfl).elim
  | _ => rfl

end Property

end Conform
