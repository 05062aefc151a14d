import Conform.Proofs.Assoc
import Conform.Proofs.Checking

/-!
Error maps as trees. Recording errors keeps the keys of every map apart and leaves nothing hollow:
each entry holds a message, so a map that has entries shows violations.
-/

namespace Conform
open Outcome

/-- What holds of errors when it holds of all errors inside holds of all errors. -/
theorem FieldErrors.induct {motive : FieldErrors → Prop}
    (messages : ∀ ms, motive (.messages ms))
    (nested : ∀ m : ErrorMap, (∀ key e, (key, e) ∈ m → motive e) → motive (.nested m))
    (e : FieldErrors) : motive e := by
  refine @FieldErrors.rec motive (fun m => ∀ key e, (key, e) ∈ m → motive e)
    (fun entry => motive entry.2) messages nested ?_ ?_ ?_ e
  · simp
  · intro entry m he ih key e hmem
    rcases List.mem_cons.mp hmem with rfl | hmem
    · exact he
    · exact ih key e hmem
  · intro _ e he
    exact he

mutual

/-- The messages in the whole tree. -/
def FieldErrors.messageCount : FieldErrors → Nat
  | .messages ms => ms.length
  | .nested entries => entryMessageCount entries

def entryMessageCount : List (String × FieldErrors) → Nat
  | [] => 0
  | (_, e) :: rest => e.messageCount + entryMessageCount rest

end

def ErrorMap.messageCount (m : ErrorMap) : Nat := entryMessageCount m

/-- Every list and every map in the tree holds something, and the keys of every map differ. -/
inductive FieldErrors.Solid : FieldErrors → Prop where
  | messages {ms : List String} (nonempty : ms ≠ []) : Solid (.messages ms)
  | nested {m : ErrorMap} (nonempty : m ≠ []) (distinct : (m.map (·.1)).Nodup)
    (inside : ∀ key e, (key, e) ∈ m → Solid e) : Solid (.nested m)

/-- The keys differ, here and inside, and nothing inside is hollow. -/
structure ErrorMap.Solid (m : ErrorMap) : Prop where
  distinct : (m.map (·.1)).Nodup
  inside : ∀ key e, (key, e) ∈ m → e.Solid

/-- What additions of messages about a container and of errors under keys lead to. -/
inductive ErrorMap.Recorded : ErrorMap → Prop where
  | empty : Recorded empty
  | withBase {message : String} : Recorded (withBase message)
  | addBase {message : String} {m : ErrorMap} (h : Recorded m) : Recorded (m.addBase message)
  | insert {key : String} {e : FieldErrors} {m : ErrorMap} (h : Recorded m)
    (inside : ∀ inner, e = .nested inner → Recorded inner) : Recorded (m.insert key e)

theorem entryViolations_length {m : ErrorMap}
    (h : ∀ key e, (key, e) ∈ m → ∀ path, (e.violations path).length = e.messageCount)
    (path : String) : (entryViolations path m).length = entryMessageCount m := by
  induction m with
  | nil => rfl
  | cons entry m ih =>
    obtain ⟨key, e⟩ := entry
    have hrest := ih fun k d hd => h k d (List.mem_cons_of_mem _ hd)
    rw [entryViolations, entryMessageCount, List.length_append, h key e List.mem_cons_self, hrest]

/-- Every message is shown once. -/
theorem FieldErrors.violations_length (e : FieldErrors) (path : String) :
    (e.violations path).length = e.messageCount := by
  induction e using FieldErrors.induct generalizing path with
  | messages ms => rw [violations, messageCount, List.length_map]
  | nested m ih =>
    rw [violations, messageCount]
    exact entryViolations_length ih path

theorem entryMessageCount_le {m : ErrorMap} {key : String} {e : FieldErrors} (h : (key, e) ∈ m) :
    e.messageCount ≤ entryMessageCount m := by
  induction m with
  | nil => cases h
  | cons entry m ih =>
    obtain ⟨k, d⟩ := entry
    rw [entryMessageCount]
    rcases List.mem_cons.mp h with heq | h
    · obtain ⟨-, rfl⟩ := Prod.mk.inj heq
      omega
    · have := ih h
      omega

theorem FieldErrors.Solid.messageCount_pos {e : FieldErrors} (h : e.Solid) :
    0 < e.messageCount := by
  induction h with
  | messages nonempty => exact List.length_pos_iff.mpr nonempty
  | @nested m nonempty _ _ ih =>
    obtain ⟨⟨key, e⟩, he⟩ := List.exists_mem_of_ne_nil m nonempty
    have hle : e.messageCount ≤ entryMessageCount m := entryMessageCount_le he
    exact Nat.lt_of_lt_of_le (ih key e he) hle

namespace ErrorMap
variable {m : ErrorMap} {key message : String} {e : FieldErrors}

theorem length_violations (m : ErrorMap) : m.violations.length = m.messageCount :=
  (FieldErrors.nested m).violations_length "$"

theorem Solid.violations_eq_nil_iff (h : m.Solid) : m.violations = [] ↔ m = [] := by
  constructor
  · intro hv
    refine Classical.not_not.mp fun hne => ?_
    have hpos := (FieldErrors.Solid.nested hne h.distinct h.inside).messageCount_pos
    have hcount := m.length_violations
    rw [hv] at hcount
    exact Nat.ne_of_lt hpos hcount
  · rintro rfl
    rfl

theorem Solid.nil : Solid [] := ⟨List.nodup_nil, by simp⟩

theorem Solid.store (h : m.Solid) (he : e.Solid) : Solid (Assoc.store key e m) := by
  refine ⟨Assoc.nodup_store h.distinct, ?_⟩
  intro k d hmem
  rcases Assoc.mem_store hmem with rfl | hmem
  · exact he
  · exact h.inside k d hmem

theorem Solid.addBase (h : m.Solid) (message : String) : (m.addBase message).Solid := by
  unfold ErrorMap.addBase
  split
  · split
    · exact h
    · exact h.store (.messages (by simp))
  · exact h.store (.messages (by simp))

theorem Solid.insert (h : m.Solid) (he : e.isEmpty = false → e.Solid) : (m.insert key e).Solid := by
  unfold ErrorMap.insert
  cases hempty : e.isEmpty with
  | true => exact h
  | false => exact h.store (he hempty)

theorem Recorded.solid (h : m.Recorded) : m.Solid := by
  induction h with
  | empty => exact .nil
  | @withBase message => exact Solid.nil.addBase message
  | addBase _ ih => exact ih.addBase _
  | @insert key e m _ _ ih ihinside =>
    refine ih.insert fun hempty => ?_
    cases e with
    | messages ms =>
      refine .messages ?_
      rintro rfl
      cases hempty
    | nested inner =>
      have hinner := ihinside inner rfl
      refine .nested ?_ hinner.distinct hinner.inside
      rintro rfl
      cases hempty

end ErrorMap

/-- The maps inside are what recording leads to. -/
def FieldErrors.Recorded (e : FieldErrors) : Prop :=
  ∀ m : ErrorMap, e = .nested m → m.Recorded

theorem FieldErrors.recorded_messages (ms : List String) : (messages ms).Recorded := by
  rintro m ⟨⟩

theorem Message.recorded_errors (msg : Message) : msg.errors.Recorded := .withBase

theorem ErrorMap.Recorded.ofMap {m : ErrorMap} (h : m.Recorded) :
    (FieldErrors.ofMap m).Recorded := by
  unfold FieldErrors.ofMap
  split
  · exact FieldErrors.recorded_messages []
  · rintro _ ⟨⟩
    exact h

theorem recorded_refusal (allowNil : Bool) (v : Json) :
    (Property.refusal allowNil v).Recorded := by
  unfold Property.refusal
  split
  · split
    · exact .empty
    · exact Message.recorded_errors _
  · exact Message.recorded_errors _

theorem recorded_sizeErrors (length : Nat) (minSize maxSize : Option Nat) :
    (sizeErrors length minSize maxSize).Recorded := by
  cases minSize <;> cases maxSize <;> simp only [sizeErrors] <;> (try split) <;> (try split) <;>
    first | exact .empty | exact Message.recorded_errors _

theorem recorded_containerErrors {P : Type} (a : ArraySchema P) (items : List Json) :
    (containerErrors a items).Recorded := by
  unfold containerErrors
  split
  · exact Message.recorded_errors _
  · exact recorded_sizeErrors _ _ _

namespace Property
variable {p : Property} {v : Json} {e : FieldErrors} {m : ErrorMap}

theorem recorded_missing (p : Property) : p.missing.Recorded := by
  cases p with
  | leaf => exact FieldErrors.recorded_messages _
  | hash | array =>
    rintro _ ⟨⟩
    exact Message.recorded_errors _

theorem recorded_fieldVerdict {fields : List (String × Json)} {name : String}
    (h : ∀ v e, p.check v = .ok e → e.Recorded)
    (he : fieldVerdict fields (name, p) = .ok e) : e.Recorded := by
  cases hl : Assoc.lookup name fields with
  | some v =>
    rw [fieldVerdict_present hl] at he
    exact h v e he
  | none =>
    rw [fieldVerdict_absent hl] at he
    cases he
    split
    · exact p.recorded_missing
    · exact FieldErrors.recorded_messages []

theorem recorded_checkFields {fields : List (String × Json)} {ps : List (String × Property)}
    (h : ∀ name p, (name, p) ∈ ps → ∀ v e, p.check v = .ok e → e.Recorded) {start : ErrorMap}
    (hs : start.Recorded) (hm : checkFields fields ps start = .ok m) : m.Recorded := by
  rw [checkFields_eq_foldlM] at hm
  induction ps generalizing start with
  | nil =>
    cases hm
    exact hs
  | cons entry ps ih =>
    obtain ⟨name, p⟩ := entry
    rw [List.foldlM_cons, bind_eq_ok_iff] at hm
    obtain ⟨next, hnext, hm⟩ := hm
    obtain ⟨e, he, rfl⟩ := map_eq_ok_iff.mp hnext
    have hrecorded := recorded_fieldVerdict (h name p List.mem_cons_self) he
    exact ih (fun k q hq => h k q (List.mem_cons_of_mem _ hq)) (.insert hs hrecorded) hm

theorem recorded_firstVerdict {index : Nat} {verdicts : List (Except Fault FieldErrors)}
    (h : ∀ e, .ok e ∈ verdicts → e.Recorded) (hm : firstVerdict index verdicts = .ok m) :
    m.Recorded := by
  induction verdicts generalizing index with
  | nil =>
    cases hm
    exact .empty
  | cons verdict rest ih =>
    rw [firstVerdict, bind_eq_ok_iff] at hm
    obtain ⟨e, rfl, hm⟩ := hm
    split at hm
    · exact ih (fun d hd => h d (List.mem_cons_of_mem _ hd)) hm
    · rename_i hempty
      cases hm
      have single : ErrorMap.insert (toString index) e [] = [(toString index, e)] := if_neg hempty
      rw [← single]
      exact .insert .empty (h e List.mem_cons_self)

theorem recorded_hashErrors {h : HashSchema Property}
    (inside : ∀ name p, (name, p) ∈ h.properties → ∀ v e, p.check v = .ok e → e.Recorded)
    (hm : hashErrors h v = .ok m) : m.Recorded := by
  by_cases hv : ∃ fields, v = .object fields
  · obtain ⟨fields, rfl⟩ := hv
    rw [hashErrors_object] at hm
    split at hm
    · cases hm
      exact Message.recorded_errors _
    · exact recorded_checkFields inside .empty hm
  · rw [hashErrors_of_ne_object h fun fields heq => hv ⟨fields, heq⟩] at hm
    cases hm
    exact recorded_refusal _ _

theorem recorded_arrayErrors {a : ArraySchema Property}
    (inside : ∀ p ∈ a.mode.properties, ∀ v e, p.check v = .ok e → e.Recorded)
    (hm : arrayErrors a v = .ok m) : m.Recorded := by
  by_cases hv : ∃ items, v = .array items
  · obtain ⟨items, rfl⟩ := hv
    rw [arrayErrors_array] at hm
    split at hm
    · refine recorded_firstVerdict ?_ hm
      intro e he
      obtain ⟨⟨p, u⟩, hpair, hcheck⟩ := List.mem_map.mp he
      exact inside p (ArrayMode.mem_of_mem_pairs hpair).1 u e hcheck
    · cases hm
      exact recorded_containerErrors _ _
  · rw [arrayErrors_of_ne_array a fun items heq => hv ⟨items, heq⟩] at hm
    cases hm
    exact recorded_refusal _ _

/-- Whatever a check finds, it has recorded. -/
theorem recorded_check (p : Property) (h : p.check v = .ok e) : e.Recorded := by
  induction p generalizing v e with
  | leaf l =>
    obtain ⟨ms, rfl⟩ : ∃ ms, e = .messages ms := by
      rw [check] at h
      unfold Leaf.check at h
      split at h
      · split at h <;> cases h <;> exact ⟨_, rfl⟩
      · split at h
        · obtain ⟨ms, -, rfl⟩ := map_eq_ok_iff.mp h
          exact ⟨ms, rfl⟩
        · cases h
          exact ⟨_, rfl⟩
    exact FieldErrors.recorded_messages ms
  | hash s ih =>
    obtain ⟨m, hm, rfl⟩ := map_eq_ok_iff.mp h
    exact (recorded_hashErrors (fun name p hp v e => ih name p hp) hm).ofMap
  | array a ih =>
    obtain ⟨m, hm, rfl⟩ := map_eq_ok_iff.mp h
    exact (recorded_arrayErrors (fun p hp v e => ih p hp) hm).ofMap

end Property

theorem Schema.recorded_validate {s : Schema} {document : Json} {m : ErrorMap}
    (h : s.validate document = .ok m) : m.Recorded := by
  cases s with
  | hash => exact Property.recorded_hashErrors (fun _ p _ _ _ => p.recorded_check) h
  | array => exact Property.recorded_arrayErrors (fun p _ _ _ => p.recorded_check) h

/-- Nothing that is recorded is hollow: keys are different at every level, every entry holds a
message, and every message is one violation. So a document is valid exactly if there is no violation
to show. -/
theorem recorded_errors_show_violations :
    (∀ m : ErrorMap, m.Recorded →
      m.Solid ∧ (m.violations = [] ↔ m.isEmpty = true) ∧
        m.violations.length = m.messageCount) ∧
    ∀ (s : Schema) (document : Json) (m : ErrorMap), s.validate document = .ok m →
      m.Recorded ∧ (m.isEmpty = true ↔ m.violations = []) := by
  have empty_iff : ∀ m : ErrorMap, m.Recorded → (m.violations = [] ↔ m.isEmpty = true) := by
    intro m h
    rw [List.isEmpty_iff]
    exact h.solid.violations_eq_nil_iff
  refine ⟨?_, ?_⟩
  · intro m h
    exact ⟨h.solid, empty_iff m h, m.length_violations⟩
  · intro s document m h
    have recorded := Schema.recorded_validate h
    exact ⟨recorded, (empty_iff m recorded).symm⟩

/-- A message about the container takes the place of a map that stood under its key; then a tree of
two levels is recorded beside it. -/
theorem message_replaces_nested_entry :
    let required : ErrorMap := ErrorMap.withBase "required"
    let tags : ErrorMap := ErrorMap.insert "0" (.messages ["blank", "short"]) required
    let m : ErrorMap := ErrorMap.insert "tags" (.nested tags)
      (ErrorMap.addBase "strict" (ErrorMap.insert "base" (.nested required) .empty))
    let listed : Schema :=
      .array ⟨.single (.hash ⟨[], true, true, false⟩), false, none, none, true, false⟩
    m.Recorded ∧ m = [("base", .messages ["strict"]), ("tags", .nested
        [("base", .messages ["required"]), ("0", .messages ["blank", "short"])])] ∧
      m.Solid ∧ m.violations ≠ [] ∧ m.violations.length = 4 ∧
      ∃ found : ErrorMap, listed.validate (.array [.object [], .bool true]) = .ok found ∧
        found.Recorded ∧ found.violations ≠ [] := by
  intro required tags m listed
  have hrequired : required.Recorded := .withBase
  have htags : tags.Recorded := .insert hrequired (FieldErrors.recorded_messages _)
  have hnested : ∀ inner : ErrorMap, inner.Recorded →
      ∀ n : ErrorMap, FieldErrors.nested inner = .nested n → n.Recorded := by
    rintro inner h _ ⟨⟩
    exact h
  have hm : m.Recorded :=
    .insert (.addBase (.insert .empty (hnested required hrequired))) (hnested tags htags)
  obtain ⟨recorded, validated⟩ := recorded_errors_show_violations
  obtain ⟨solid, shown_iff, count⟩ := recorded m hm
  have fails : listed.validate (.array [.object [], .bool true]) =
      .ok [("1", .nested [("base", .messages ["wrong type"])])] := rfl
  obtain ⟨hfound, hshown⟩ := validated _ _ _ fails
  have entries : m.isEmpty = false := rfl
  exact ⟨hm, rfl, solid, by simp [shown_iff, entries], count, _, fails, hfound, by simp [← hshown]⟩

end Conform
