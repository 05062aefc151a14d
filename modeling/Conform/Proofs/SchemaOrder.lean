import Conform.Proofs.ErrorTrees
import Conform.Proofs.Findings

/-!
Schemas that differ in order only: in the order of the validators of a leaf, or of the properties of
a hash. What they say of a value differs in order only as well, and they fail on the same values.
-/

namespace Conform
open Outcome

/-- Errors with the same keys at every depth and the same messages under them. -/
inductive FieldErrors.Reordered : FieldErrors → FieldErrors → Prop where
  | messages {ms ns : List String} (same : ∀ m, m ∈ ms ↔ m ∈ ns) :
    Reordered (.messages ms) (.messages ns)
  | nested {m n : ErrorMap} (keys : ∀ key, key ∈ m.map (·.1) ↔ key ∈ n.map (·.1))
    (inside : ∀ key e f, (key, e) ∈ m → (key, f) ∈ n → Reordered e f) :
    Reordered (.nested m) (.nested n)

def ErrorMap.Reordered (m n : ErrorMap) : Prop := FieldErrors.Reordered (.nested m) (.nested n)

/-- Leaves that are alike up to the order of their validators. -/
structure Leaf.Reordered (l k : Leaf) : Prop where
  kind : l.kind = k.kind
  test : l.test = k.test
  required : l.required = k.required
  allowNil : l.allowNil = k.allowNil
  validators : l.validators.Perm k.validators

/-- Arrays that ask for the same, and describe as many elements by properties of their own. -/
structure ArraySchema.Framed {P : Type} (a b : ArraySchema P) : Prop where
  unique : a.unique = b.unique
  required : a.required = b.required
  allowNil : a.allowNil = b.allowNil
  bounds : a.mode.bounds a.minSize a.maxSize = b.mode.bounds b.minSize b.maxSize
  described : ∀ i, (a.mode.at? i).isSome = (b.mode.at? i).isSome

/-- Properties that are alike up to the order of validators and of named properties, at every
depth. Positions of arrays are no matter of order. -/
inductive Property.Reordered : Property → Property → Prop where
  | leaf {l k : Leaf} (same : l.Reordered k) : Reordered (.leaf l) (.leaf k)
  | hash {g h : HashSchema Property} (strict : g.strict = h.strict)
    (required : g.required = h.required) (allowNil : g.allowNil = h.allowNil)
    (distinct : (g.properties.map (·.1)).Nodup)
    (names : (g.properties.map (·.1)).Perm (h.properties.map (·.1)))
    (inside : ∀ name p q, (name, p) ∈ g.properties → (name, q) ∈ h.properties → Reordered p q) :
    Reordered (.hash g) (.hash h)
  | array {a b : ArraySchema Property} (framed : a.Framed b)
    (inside : ∀ i p q, a.mode.at? i = some p → b.mode.at? i = some q → Reordered p q) :
    Reordered (.array a) (.array b)

variable {p q : Property} {l k : Leaf} {g h : HashSchema Property} {a b : ArraySchema Property}
variable {v : Json} {ws : List Validator} {ms ns : List String}

theorem isEmpty_eq_of_mem_iff {α : Type} {xs ys : List α} (same : ∀ x, x ∈ xs ↔ x ∈ ys) :
    xs.isEmpty = ys.isEmpty := by
  have hnil : xs = [] ↔ ys = [] := by
    rw [List.eq_nil_iff_forall_not_mem, List.eq_nil_iff_forall_not_mem]
    exact forall_congr' fun x => not_congr (same x)
  rw [Bool.eq_iff_iff, List.isEmpty_iff, List.isEmpty_iff, hnil]

theorem FieldErrors.Reordered.isEmpty_eq {e f : FieldErrors} (h : e.Reordered f) :
    e.isEmpty = f.isEmpty := by
  cases h with
  | messages same => exact isEmpty_eq_of_mem_iff same
  | nested keys _ =>
    have hkeys := isEmpty_eq_of_mem_iff keys
    rwa [List.isEmpty_map, List.isEmpty_map] at hkeys

theorem FieldErrors.Reordered.symm {e f : FieldErrors} (h : e.Reordered f) : f.Reordered e := by
  induction h with
  | messages same => exact .messages fun m => (same m).symm
  | nested keys _ ih =>
    exact .nested (fun key => (keys key).symm) fun key e f he hf => ih key f e hf he

theorem FieldErrors.Solid.reordered_self {e : FieldErrors} (h : e.Solid) : e.Reordered e := by
  induction h with
  | messages _ => exact .messages fun _ => Iff.rfl
  | nested _ distinct _ ih =>
    refine .nested (fun _ => Iff.rfl) ?_
    intro key e f he hf
    obtain rfl := Assoc.eq_of_mem distinct he hf
    exact ih key e he

namespace ErrorMap
variable {m n : ErrorMap}

theorem Solid.reordered_self (h : m.Solid) : m.Reordered m := by
  refine .nested (fun _ => Iff.rfl) ?_
  intro key e f he hf
  obtain rfl := Assoc.eq_of_mem h.distinct he hf
  exact (h.inside key e he).reordered_self

theorem Reordered.isEmpty_eq (h : m.Reordered n) : m.isEmpty = n.isEmpty :=
  FieldErrors.Reordered.isEmpty_eq h

theorem Reordered.ofMap (h : m.Reordered n) :
    (FieldErrors.ofMap m).Reordered (FieldErrors.ofMap n) := by
  rw [FieldErrors.ofMap, FieldErrors.ofMap, h.isEmpty_eq]
  split
  · exact .messages fun _ => Iff.rfl
  · exact h

theorem Reordered.singleton {e f : FieldErrors} (key : String) (h : e.Reordered f) :
    Reordered [(key, e)] [(key, f)] := by
  refine .nested (fun _ => Iff.rfl) ?_
  intro k d c hd hc
  cases List.mem_singleton.mp hd
  cases List.mem_singleton.mp hc
  exact h

end ErrorMap

theorem Property.WellNamed.reordered_self (h : p.WellNamed) : p.Reordered p := by
  induction h with
  | leaf => exact .leaf ⟨rfl, rfl, rfl, rfl, .refl _⟩
  | hash distinct _ ih =>
    refine .hash rfl rfl rfl distinct (.refl _) ?_
    intro name p q hp hq
    obtain rfl := Assoc.eq_of_mem distinct hp hq
    exact ih name p hp
  | array _ ih =>
    refine .array ⟨rfl, rfl, rfl, rfl, fun _ => rfl⟩ ?_
    intro i p q hp hq
    rw [hp] at hq
    cases hq
    exact ih p (ArrayMode.mem_of_at? hp)

namespace Leaf

/-- The messages that are collected are those of the validators that reject. -/
theorem mem_runValidators {messages : List String} (hok : runValidators v ws messages = .ok ms)
    (m : String) : m ∈ ms ↔ m ∈ messages ∨ ∃ w ∈ ws, w.judge v = .ok false ∧ w.message = m := by
  rw [runValidators_eq_foldlM] at hok
  induction ws generalizing messages with
  | nil =>
    cases hok
    simp
  | cons w ws ih =>
    rw [List.foldlM_cons] at hok
    obtain ⟨next, hnext, hok⟩ := bind_eq_ok_iff.mp hok
    obtain ⟨accepted, hw, rfl⟩ := map_eq_ok_iff.mp hnext
    rw [ih hok]
    cases accepted with
    | true => simp [hw]
    | false => simp [hw, mem_note, or_assoc, eq_comm]

theorem runValidators_ok_iff {messages : List String} :
    (∃ ms, runValidators v ws messages = .ok ms) ↔ ∀ w ∈ ws, ∃ b, w.judge v = .ok b := by
  rw [runValidators_eq_foldlM]
  exact foldlM_ok_iff

/-- All validators run, so their order decides neither whether one fails nor which of them
reject. -/
theorem runValidators_reordered {vs : List Validator} (hp : ws.Perm vs) (v : Json) :
    Option.Rel (fun ms ns => ∀ m : String, m ∈ ms ↔ m ∈ ns) (runValidators v ws []).toOption
      (runValidators v vs []).toOption := by
  have hall : (∃ ms, runValidators v ws [] = .ok ms) ↔ ∃ ns, runValidators v vs [] = .ok ns := by
    rw [runValidators_ok_iff, runValidators_ok_iff]
    exact forall_congr' fun w => by rw [hp.mem_iff]
  simp only [rel_iff, toOption_eq_some_iff]
  refine ⟨?_, fun ns hns => hall.mpr ⟨ns, hns⟩⟩
  intro ms hms
  obtain ⟨ns, hns⟩ := hall.mp ⟨ms, hms⟩
  refine ⟨ns, hns, fun m => ?_⟩
  rw [mem_runValidators hms, mem_runValidators hns]
  exact or_congr Iff.rfl (exists_congr fun w => by rw [hp.mem_iff])

theorem check_reordered (h : l.Reordered k) (v : Json) :
    Option.Rel FieldErrors.Reordered (l.check v).toOption (k.check v).toOption := by
  have hself : ∀ ms : List String, FieldErrors.Reordered (.messages ms) (.messages ms) :=
    fun ms => .messages fun _ => Iff.rfl
  rw [check, check, h.test, h.allowNil]
  split
  · split
    · exact .some (hself _)
    · exact .some (hself _)
  · split
    · rw [toOption_map, toOption_map]
      exact rel_map (runValidators_reordered h.validators v) fun _ _ same => .messages same
    · exact .some (hself _)

end Leaf

namespace Property

theorem Reordered.isRequired_eq (h : Reordered p q) : p.isRequired = q.isRequired := by
  cases h with
  | leaf same => exact same.required
  | hash _ required _ _ _ _ => exact required
  | array framed _ => exact framed.required

theorem Reordered.missing_eq (h : Reordered p q) : p.missing = q.missing := by
  cases h <;> rfl

/-- Whatever value is checked, both checks fail, or their errors differ in order only. -/
def ChecksAlike (p q : Property) : Prop :=
  ∀ v, Option.Rel FieldErrors.Reordered (p.check v).toOption (q.check v).toOption

variable {fields : List (String × Json)} {ps qs : List (String × Property)} {name : String}

/-- The entry that a declared property comes to. -/
def fieldEntry (fields : List (String × Json)) (entry : String × Property) :
    Option (String × FieldErrors) :=
  (fieldVerdict fields entry).toOption.bind fun e =>
    if e.isEmpty then none else some (entry.1, e)

/-- Different names never replace each other's errors. -/
theorem checkFields_eq_append {errors m : ErrorMap}
    (fresh : Assoc.Fresh (errors.map (·.1)) (ps.map (·.1)))
    (hok : checkFields fields ps errors = .ok m) :
    m = errors ++ ps.filterMap (fieldEntry fields) := by
  induction ps generalizing errors with
  | nil =>
    cases hok
    simp
  | cons entry ps ih =>
    obtain ⟨name, p⟩ := entry
    obtain ⟨hname, hrest⟩ := Assoc.fresh_cons_iff.mp fresh
    rw [checkFields_cons] at hok
    obtain ⟨e, he, hok⟩ := bind_eq_ok_iff.mp hok
    have hentry : fieldEntry fields (name, p) = if e.isEmpty then none else some (name, e) := by
      simp [fieldEntry, he]
    rw [ErrorMap.insert_of_not_mem hname] at hok
    have hkeys : (errors ++ if e.isEmpty then [] else [(name, e)]).map (·.1) ⊆
        errors.map (·.1) ++ [name] := by
      split <;> simp
    rw [ih (hrest.mono hkeys) hok, List.filterMap_cons, hentry]
    split <;> simp

/-- The entries are the verdicts that find something. -/
theorem mem_checkFields {m : ErrorMap} (distinct : (ps.map (·.1)).Nodup)
    (hok : checkFields fields ps [] = .ok m) (key : String) (e : FieldErrors) :
    (key, e) ∈ m ↔
      ∃ p, (key, p) ∈ ps ∧ fieldVerdict fields (key, p) = .ok e ∧ e.isEmpty = false := by
  have fresh : Assoc.Fresh (ErrorMap.empty.map (·.1)) (ps.map (·.1)) :=
    Assoc.fresh_iff_nodup.mpr distinct
  rw [checkFields_eq_append fresh hok, ErrorMap.empty, List.nil_append, List.mem_filterMap]
  constructor
  · rintro ⟨⟨name, p⟩, hmem, hentry⟩
    obtain ⟨found, hfound, hentry⟩ := Option.bind_eq_some_iff.mp hentry
    split at hentry
    · cases hentry
    · rename_i hne
      cases hentry
      exact ⟨p, hmem, toOption_eq_some_iff.mp hfound, by simpa using hne⟩
  · rintro ⟨p, hmem, hverdict, hne⟩
    exact ⟨(key, p), hmem, by simp [fieldEntry, hverdict, hne]⟩

theorem checkFields_ok_iff {errors : ErrorMap} : (∃ m, checkFields fields ps errors = .ok m) ↔
    ∀ entry ∈ ps, ∃ e, fieldVerdict fields entry = .ok e := by
  rw [checkFields_eq_foldlM]
  exact foldlM_ok_iff

theorem fieldVerdict_reordered (hr : Reordered p q) (alike : ChecksAlike p q)
    (fields : List (String × Json)) (name : String) :
    Option.Rel FieldErrors.Reordered (fieldVerdict fields (name, p)).toOption
      (fieldVerdict fields (name, q)).toOption := by
  cases hl : Assoc.lookup name fields with
  | some v =>
    rw [fieldVerdict_present hl, fieldVerdict_present hl]
    exact alike v
  | none =>
    rw [fieldVerdict_absent hl, fieldVerdict_absent hl, hr.isRequired_eq, hr.missing_eq]
    refine .some ?_
    split
    · cases q with
      | leaf _ => exact .messages fun _ => Iff.rfl
      | hash _ | array _ => exact (Message.recorded_errors .required).solid.reordered_self
    · exact .messages fun _ => Iff.rfl

/-- Every verdict on the first properties has its counterpart on the second ones. -/
def Follows (fields : List (String × Json)) (ps qs : List (String × Property)) : Prop :=
  ∀ name p, (name, p) ∈ ps → ∃ q, (name, q) ∈ qs ∧
    Option.Rel FieldErrors.Reordered (fieldVerdict fields (name, p)).toOption
      (fieldVerdict fields (name, q)).toOption

theorem Follows.checkFields_ok (hf : Follows fields ps qs)
    (hok : ∃ n, checkFields fields qs [] = .ok n) : ∃ m, checkFields fields ps [] = .ok m := by
  rw [checkFields_ok_iff] at hok ⊢
  rintro ⟨name, p⟩ hp
  obtain ⟨q, hq, hrel⟩ := hf name p hp
  exact (rel_ok_iff hrel).mpr (hok (name, q) hq)

/-- Where a property gets errors, its counterpart gets some too. -/
theorem Follows.keys {m n : ErrorMap} (hf : Follows fields ps qs) (distinct : (ps.map (·.1)).Nodup)
    (distinct' : (qs.map (·.1)).Nodup) (hm : checkFields fields ps [] = .ok m)
    (hn : checkFields fields qs [] = .ok n) {key : String} (hkey : key ∈ m.map (·.1)) :
    key ∈ n.map (·.1) := by
  obtain ⟨e, hmem⟩ := Assoc.mem_keys_iff.mp hkey
  obtain ⟨p, hp, he, hne⟩ := (mem_checkFields distinct hm key e).mp hmem
  obtain ⟨q, hq, hrel⟩ := hf key p hp
  obtain ⟨f, hfound⟩ := (rel_ok_iff hrel).mp ⟨e, he⟩
  have hsome : f.isEmpty = false := (rel_of_ok hrel he hfound).isEmpty_eq ▸ hne
  exact Assoc.mem_keys_iff.mpr
    ⟨f, (mem_checkFields distinct' hn key f).mpr ⟨q, hq, hfound, hsome⟩⟩

/-- All properties are checked, each at its own name, so their order decides neither whether a check
fails nor which names get errors. -/
theorem checkFields_reordered (distinct : (ps.map (·.1)).Nodup)
    (names : (ps.map (·.1)).Perm (qs.map (·.1)))
    (inside : ∀ name p q, (name, p) ∈ ps → (name, q) ∈ qs → Reordered p q ∧ ChecksAlike p q)
    (fields : List (String × Json)) :
    Option.Rel ErrorMap.Reordered (checkFields fields ps []).toOption
      (checkFields fields qs []).toOption := by
  have distinct' : (qs.map (·.1)).Nodup := names.nodup_iff.mp distinct
  have verdicts : ∀ name p q, (name, p) ∈ ps → (name, q) ∈ qs →
      Option.Rel FieldErrors.Reordered (fieldVerdict fields (name, p)).toOption
        (fieldVerdict fields (name, q)).toOption := by
    intro name p q hp hq
    obtain ⟨hr, alike⟩ := inside name p q hp hq
    exact fieldVerdict_reordered hr alike fields name
  have there : Follows fields ps qs := by
    intro name p hp
    obtain ⟨q, hq⟩ := Assoc.exists_of_perm names hp
    exact ⟨q, hq, verdicts name p q hp hq⟩
  have back : Follows fields qs ps := by
    intro name q hq
    obtain ⟨p, hp⟩ := Assoc.exists_of_perm names.symm hq
    exact ⟨p, hp, rel_swap (verdicts name p q hp hq) fun _ _ => FieldErrors.Reordered.symm⟩
  simp only [rel_iff, toOption_eq_some_iff]
  refine ⟨?_, fun n hn => there.checkFields_ok ⟨n, hn⟩⟩
  intro m hm
  obtain ⟨n, hn⟩ := back.checkFields_ok ⟨m, hm⟩
  refine ⟨n, hn, .nested ?_ ?_⟩
  · intro key
    exact ⟨there.keys distinct distinct' hm hn, back.keys distinct' distinct hn hm⟩
  · intro key e f he hf
    obtain ⟨p, hp, he, -⟩ := (mem_checkFields distinct hm key e).mp he
    obtain ⟨q, hq, hf, -⟩ := (mem_checkFields distinct' hn key f).mp hf
    exact rel_of_ok (verdicts key p q hp hq) he hf

theorem hashErrors_reordered (hr : Reordered (.hash g) (.hash h))
    (inside : ∀ name p q, (name, p) ∈ g.properties → (name, q) ∈ h.properties → ChecksAlike p q)
    (v : Json) :
    Option.Rel ErrorMap.Reordered (hashErrors g v).toOption (hashErrors h v).toOption := by
  cases hr with
  | hash strict _ allowNil distinct names related =>
    by_cases hv : ∃ fields, v = .object fields
    · obtain ⟨fields, rfl⟩ := hv
      have declared : ∀ key, Assoc.contains key g.properties = Assoc.contains key h.properties := by
        intro key
        rw [Bool.eq_iff_iff, Assoc.contains_iff, Assoc.contains_iff, names.mem_iff]
      have hundeclared : undeclared g fields = undeclared h fields := by
        simp only [undeclared, strict, declared]
      rw [hashErrors_object, hashErrors_object, hundeclared]
      split
      · exact .some (Message.recorded_errors _).solid.reordered_self
      · refine checkFields_reordered distinct names ?_ fields
        intro name p q hp hq
        exact ⟨related name p q hp hq, inside name p q hp hq⟩
    · have hne : ∀ fields, v ≠ .object fields := fun fields heq => hv ⟨fields, heq⟩
      rw [hashErrors_of_ne_object g hne, hashErrors_of_ne_object h hne, allowNil]
      exact .some (recorded_refusal _ v).solid.reordered_self

/-- Elements are checked position by position: the first that fails, or has errors, is the same. -/
theorem firstVerdict_reordered {xs ys : List (Except Fault FieldErrors)}
    (hall : ∀ i : Nat, Option.Rel (fun x y : Except Fault FieldErrors =>
      Option.Rel FieldErrors.Reordered x.toOption y.toOption) xs[i]? ys[i]?) (index : Nat) :
    Option.Rel ErrorMap.Reordered (firstVerdict index xs).toOption
      (firstVerdict index ys).toOption := by
  induction xs generalizing ys index with
  | nil =>
    cases ys with
    | nil => exact .some ErrorMap.Solid.nil.reordered_self
    | cons y ys => cases hall 0
  | cons x xs ih =>
    cases ys with
    | nil => cases hall 0
    | cons y ys =>
      have hrest := ih (fun i => hall (i + 1)) (index + 1)
      cases hall 0 with
      | some hxy =>
        rw [firstVerdict, firstVerdict, toOption_bind, toOption_bind]
        refine rel_bind hxy fun e f hef => ?_
        rw [hef.isEmpty_eq]
        split
        · exact hrest
        · exact .some (.singleton _ hef)

theorem containerErrors_framed (framed : a.Framed b) (items : List Json) :
    containerErrors a items = containerErrors b items := by
  rw [containerErrors, containerErrors, framed.unique, framed.bounds]

theorem arrayErrors_reordered (hr : Reordered (.array a) (.array b))
    (inside : ∀ i p q, a.mode.at? i = some p → b.mode.at? i = some q → ChecksAlike p q)
    (v : Json) :
    Option.Rel ErrorMap.Reordered (arrayErrors a v).toOption (arrayErrors b v).toOption := by
  cases hr with
  | array framed _ =>
    by_cases hv : ∃ items, v = .array items
    · obtain ⟨items, rfl⟩ := hv
      rw [arrayErrors_array, arrayErrors_array, containerErrors_framed framed]
      split
      · refine firstVerdict_reordered (fun i => ?_) 0
        rw [List.getElem?_map, List.getElem?_map, ArrayMode.getElem?_pairs,
          ArrayMode.getElem?_pairs]
        have hdescribed := framed.described i
        cases hp : a.mode.at? i with
        | none =>
          rw [hp, Option.isSome_none, eq_comm, Option.isSome_eq_false_iff,
            Option.isNone_iff_eq_none] at hdescribed
          rw [hdescribed]
          exact .none
        | some p =>
          rw [hp, Option.isSome_some, eq_comm, Option.isSome_iff_exists] at hdescribed
          obtain ⟨q, hq⟩ := hdescribed
          rw [hq]
          cases items[i]? with
          | none => exact .none
          | some u => exact .some (inside i p q hp hq u)
      · exact .some (recorded_containerErrors b items).solid.reordered_self
    · have hne : ∀ items, v ≠ .array items := fun items heq => hv ⟨items, heq⟩
      rw [arrayErrors_of_ne_array a hne, arrayErrors_of_ne_array b hne, framed.allowNil]
      exact .some (recorded_refusal _ v).solid.reordered_self

theorem Reordered.checksAlike (hr : Reordered p q) : ChecksAlike p q := by
  induction p generalizing q with
  | leaf l =>
    cases hr with
    | leaf same => exact Leaf.check_reordered same
  | hash g ih =>
    cases q with
    | hash h =>
      have related := hr
      cases related with
      | hash _ _ _ _ _ related =>
        intro v
        rw [check, check, toOption_map, toOption_map]
        refine rel_map (hashErrors_reordered hr ?_ v) fun _ _ => ErrorMap.Reordered.ofMap
        intro name p q hp hq
        exact ih name p hp (related name p q hp hq)
    | _ => cases hr
  | array a ih =>
    cases q with
    | array b =>
      have related := hr
      cases related with
      | array _ related =>
        intro v
        rw [check, check, toOption_map, toOption_map]
        refine rel_map (arrayErrors_reordered hr ?_ v) fun _ _ => ErrorMap.Reordered.ofMap
        intro i p q hp hq
        exact ih p (ArrayMode.mem_of_at? hp) (related i p q hp hq)
    | _ => cases hr

end Property

/-- Schemas that differ in order only fail on the same documents, and find the same wrong with the
others. -/
theorem Schema.validate_reordered {s t : Schema} (hr : s.toProperty.Reordered t.toProperty)
    (document : Json) :
    Option.Rel ErrorMap.Reordered (s.validate document).toOption
      (t.validate document).toOption := by
  cases s with
  | hash g =>
    cases t with
    | hash h =>
      refine Property.hashErrors_reordered hr ?_ document
      cases hr with
      | hash _ _ _ _ _ related =>
        intro name p q hp hq
        exact (related name p q hp hq).checksAlike
    | array b => cases hr
  | array a =>
    cases t with
    | hash h => cases hr
    | array b =>
      refine Property.arrayErrors_reordered hr ?_ document
      cases hr with
      | array _ related =>
        intro i p q hp hq
        exact (related i p q hp hq).checksAlike

end Conform
