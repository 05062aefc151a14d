import Conform.Options
import Conform.Proofs.Assoc
import Conform.Proofs.Names
import Conform.Proofs.Outcome

/-!
Option sets as maps from normalized names. An insertion looks a name up that is normalized already,
so only under names that stay the same is a set sure to hold one option each.
-/

namespace Conform.Options
open Outcome
open Text (normalizeKey isStable normalizeKey_fixed_iff)

variable {o next : Options} {key : String} {value : Json} {fields : List (String × Json)}

/-- The names that options are stored under. -/
def names (o : Options) : List String := o.entries.map (·.1)

/-- The entries under other names. -/
def others (key : String) (o : Options) : List (String × Json) :=
  o.entries.filter (·.1 ≠ normalizeKey key)

/-- The name of a key stays the same when it is normalized again. -/
def Settled (key : String) : Prop := normalizeKey (normalizeKey key) = normalizeKey key

instance (key : String) : Decidable (Settled key) := inferInstanceAs (Decidable (_ = _))

/-- A value is found and taken by every spelling of a key. -/
def Holds (key : String) (value : Json) (o : Options) : Prop :=
  ∀ other, normalizeKey other = normalizeKey key →
    o.get? other = some value ∧ ∃ rest, (take other).outcome o = (.ok (some value), rest)

/-- What inserts under settled keys, replacements and removals lead to. -/
inductive Reached : Options → Prop where
  | empty : Reached empty
  | ofJson {fields : List (String × Json)} {o : Options}
    (settled : ∀ field ∈ fields, Settled field.1) (made : ofJson (.object fields) = .ok o) :
    Reached o
  | insert {o next : Options} {key : String} {value : Json} (h : Reached o) (settled : Settled key)
    (done : o.insert key value = .ok next) : Reached next
  | set {o : Options} {key : String} {value : Json} (h : Reached o) : Reached (o.set key value)
  | take {o rest : Options} {key : String} {found : Option Json} (h : Reached o)
    (done : (take key).outcome o = (.ok found, rest)) : Reached rest

theorem contains_iff : o.contains key = true ↔ normalizeKey key ∈ o.names := Assoc.contains_iff

theorem take_outcome (key : String) (o : Options) : (take key).outcome o =
    (.ok (o.get? key), ⟨Assoc.erase (normalizeKey key) o.entries⟩) := rfl

theorem holds_of_lookup (h : Assoc.lookup (normalizeKey key) o.entries = some value) :
    o.Holds key value := by
  intro other hother
  have hget : o.get? other = some value := by
    rw [get?, hother]
    exact h
  exact ⟨hget, _, by rw [take_outcome, hget]⟩

theorem insert_eq_ok_iff : o.insert key value = .ok next ↔
    normalizeKey key ≠ "" ∧ normalizeKey (normalizeKey key) ∉ o.names ∧
      next = ⟨o.entries ++ [(normalizeKey key, value)]⟩ := by
  rw [← contains_iff]
  unfold insert
  dsimp only
  split
  · rename_i hblank
    simp [hblank]
  · rename_i hname
    split
    · rename_i htaken
      simp [htaken]
    · rename_i htaken
      simp [hname, htaken, eq_comm]

theorem insert_eq_error_iff : (∃ e, o.insert key value = .error e) ↔
    normalizeKey key = "" ∨ normalizeKey (normalizeKey key) ∈ o.names := by
  rw [exists_error_iff]
  constructor
  · intro h
    by_cases hblank : normalizeKey key = ""
    · exact .inl hblank
    · refine .inr (Classical.not_not.mp fun hfree => ?_)
      exact h ⟨_, insert_eq_ok_iff.mpr ⟨hblank, hfree, rfl⟩⟩
  · rintro hrefused ⟨next, hnext⟩
    obtain ⟨hblank, hfree, -⟩ := insert_eq_ok_iff.mp hnext
    exact hrefused.elim hblank hfree

theorem insert_holds (settled : Settled key) (h : o.insert key value = .ok next) :
    next.Holds key value ∧ next.others key = o.others key := by
  obtain ⟨-, hnew, rfl⟩ := insert_eq_ok_iff.mp h
  rw [settled] at hnew
  have hstored := (Assoc.lookup_append_of_not_mem hnew _).trans (Assoc.lookup_cons_self _ value [])
  exact ⟨holds_of_lookup hstored, by simp [others]⟩

theorem set_holds (key : String) (value : Json) (o : Options) :
    (o.set key value).Holds key value ∧ (o.set key value).others key = o.others key :=
  ⟨holds_of_lookup Assoc.lookup_store, Assoc.filter_ne_store⟩

/-- An option is refused a second time exactly under a settled key. -/
theorem settled_iff_repeat_refused (h : normalizeKey key ≠ "") :
    Settled key ↔ ∀ v w, ∃ e, (empty.insert key v >>= fun o => o.insert key w) = .error e := by
  have hfirst : ∀ v, empty.insert key v = .ok ⟨[(normalizeKey key, v)]⟩ := by
    intro v
    exact insert_eq_ok_iff.mpr ⟨h, by simp [names, empty], rfl⟩
  simp only [hfirst, ok_bind, insert_eq_error_iff]
  constructor
  · intro hsettled v w
    exact .inr (by rw [hsettled]; simp [names])
  · intro hrefused
    rcases hrefused .null .null with hblank | hmem
    · exact (h hblank).elim
    · simpa [names, Settled] using hmem

theorem names_nodup_of_insert (settled : Settled key) (distinct : o.names.Nodup)
    (h : o.insert key value = .ok next) : next.names.Nodup := by
  obtain ⟨-, hnew, rfl⟩ := insert_eq_ok_iff.mp h
  rw [settled] at hnew
  exact Assoc.nodup_append distinct hnew

theorem insertAll_cons (name : String) (value : Json) (o : Options) :
    o.insertAll ((name, value) :: fields) = o.insert name value >>= fun o => o.insertAll fields :=
  List.foldlM_cons

theorem names_nodup_of_insertAll (settled : ∀ field ∈ fields, Settled field.1)
    (distinct : o.names.Nodup) (h : o.insertAll fields = .ok next) : next.names.Nodup := by
  induction fields generalizing o with
  | nil =>
    cases h
    exact distinct
  | cons field fields ih =>
    obtain ⟨name, value⟩ := field
    obtain ⟨hname, hfields⟩ := List.forall_mem_cons.mp settled
    rw [insertAll_cons, bind_eq_ok_iff] at h
    obtain ⟨first, hfirst, h⟩ := h
    exact ih hfields (names_nodup_of_insert hname distinct hfirst) h

/-- No two options are stored under one name. -/
theorem Reached.names_nodup (h : Reached o) : o.names.Nodup := by
  induction h with
  | empty => exact List.nodup_nil
  | ofJson settled made => exact names_nodup_of_insertAll (o := .empty) settled List.nodup_nil made
  | insert _ settled done ih => exact names_nodup_of_insert settled ih done
  | set _ ih => exact Assoc.nodup_store ih
  | take _ done ih =>
    cases done
    exact ih.sublist (List.eraseP_sublist.map _)

/-- Under settled keys an object of options is accepted exactly if its names are not blank and
differ from each other and from those that are there. -/
theorem insertAll_ok_iff (settled : ∀ field ∈ fields, Settled field.1) (distinct : o.names.Nodup) :
    (∃ t, o.insertAll fields = .ok t) ↔ (∀ field ∈ fields, normalizeKey field.1 ≠ "") ∧
      (o.names ++ fields.map fun field => normalizeKey field.1).Nodup := by
  induction fields generalizing o with
  | nil =>
    have hnone : o.insertAll [] = .ok o := rfl
    simp [hnone, distinct]
  | cons field fields ih =>
    obtain ⟨name, value⟩ := field
    obtain ⟨hname, hfields⟩ := List.forall_mem_cons.mp settled
    let longer : Options := ⟨o.entries ++ [(normalizeKey name, value)]⟩
    have hlonger : longer.names = o.names ++ [normalizeKey name] := by simp [longer, names]
    have hinsert : ∀ next, o.insert name value = .ok next ↔
        normalizeKey name ≠ "" ∧ normalizeKey name ∉ o.names ∧ next = longer := by
      intro next
      rw [insert_eq_ok_iff, hname]
    have hrest : ∀ hnew : normalizeKey name ∉ o.names,
        (∃ t, longer.insertAll fields = .ok t) ↔
          (∀ field ∈ fields, normalizeKey field.1 ≠ "") ∧
            (o.names ++
              normalizeKey name :: fields.map fun field => normalizeKey field.1).Nodup := by
      intro hnew
      rw [ih hfields (Assoc.nodup_append distinct hnew), hlonger, List.append_assoc]
      rfl
    rw [insertAll_cons, List.forall_mem_cons, List.map_cons]
    constructor
    · rintro ⟨t, ht⟩
      obtain ⟨next, hnext, ht⟩ := bind_eq_ok_iff.mp ht
      obtain ⟨hblank, hnew, rfl⟩ := (hinsert next).mp hnext
      obtain ⟨hblanks, hnodup⟩ := (hrest hnew).mp ⟨t, ht⟩
      exact ⟨⟨hblank, hblanks⟩, hnodup⟩
    · rintro ⟨⟨hblank, hblanks⟩, hnodup⟩
      have hnew : normalizeKey name ∉ o.names := by
        intro hmem
        exact (List.nodup_append.mp hnodup).2.2 _ hmem _ (by simp) rfl
      obtain ⟨t, ht⟩ := (hrest hnew).mpr ⟨hblanks, hnodup⟩
      exact ⟨t, bind_eq_ok_iff.mpr ⟨longer, (hinsert longer).mpr ⟨hblank, hnew, rfl⟩, ht⟩⟩

theorem ofJson_ok_iff (settled : ∀ field ∈ fields, Settled field.1) :
    (∃ o, ofJson (.object fields) = .ok o) ↔ (∀ field ∈ fields, normalizeKey field.1 ≠ "") ∧
      (fields.map fun field => normalizeKey field.1).Nodup :=
  insertAll_ok_iff (o := empty) settled List.nodup_nil

/-- The order of the keys does not matter for that. -/
theorem ofJson_ok_iff_of_perm {swapped : List (String × Json)} (h : swapped.Perm fields)
    (settled : ∀ field ∈ fields, Settled field.1) :
    (∃ o, ofJson (.object swapped) = .ok o) ↔ ∃ o, ofJson (.object fields) = .ok o := by
  rw [ofJson_ok_iff settled, ofJson_ok_iff fun field hf => settled field (h.mem_iff.mp hf)]
  refine and_congr (forall_congr' fun field => ?_) (h.map _).nodup_iff
  rw [h.mem_iff]

/-- Under settled keys option sets are maps from normalized names, and objects of options are
accepted whatever the order of their keys. Settled are just the keys with stable names, and under
any other key an option can be stored twice. -/
theorem settled_options_form_map (h : Reached o) :
    o.names.Nodup ∧
    (∀ key value, Settled key → ((∃ e, o.insert key value = .error e) ↔
      normalizeKey key = "" ∨ normalizeKey key ∈ o.names)) ∧
    (∀ key value next, Settled key ∧ o.insert key value = .ok next ∨ next = o.set key value →
      next.Holds key value ∧ next.others key = o.others key) ∧
    (∀ fields, (∀ field ∈ fields, Settled field.1) →
      ((∃ o, ofJson (.object fields) = .ok o) ↔ (∀ field ∈ fields, normalizeKey field.1 ≠ "") ∧
        (fields.map fun field => normalizeKey field.1).Nodup) ∧
      ∀ swapped, swapped.Perm fields →
        ((∃ o, ofJson (.object swapped) = .ok o) ↔ ∃ o, ofJson (.object fields) = .ok o)) ∧
    (∀ key, Settled key ↔ isStable (normalizeKey key).toList = true) ∧
    (∀ key, normalizeKey key ≠ "" → (Settled key ↔
      ∀ v w, ∃ e, (empty.insert key v >>= fun o => o.insert key w) = .error e)) := by
  refine ⟨h.names_nodup, ?_, ?_, ?_, normalizeKey_fixed_iff, fun _ => settled_iff_repeat_refused⟩
  · intro key value settled
    rw [insert_eq_error_iff, settled]
  · rintro key value next (⟨settled, hnext⟩ | rfl)
    · exact insert_holds settled hnext
    · exact set_holds key value o
  · intro fields settled
    exact ⟨ofJson_ok_iff settled, fun _ hperm => ofJson_ok_iff_of_perm hperm settled⟩

/-- A name that begins with a colon is another one when it is normalized again: an option may be
given by it twice. -/
theorem colon_after_hyphen_stored_twice :
    let flag : Options := ⟨[("allow_nil", .bool true)]⟩
    let one : Json := .number (.ofNat 1)
    Reached flag ∧ flag.names.Nodup ∧ (∃ e, flag.insert ":AllowNil" .null = .error e) ∧
      ¬ Settled "-:a" ∧
      ofJson (.object [("-:a", one), ("_:a", one)]) = .ok ⟨[(":a", one), (":a", one)]⟩ := by
  intro flag one
  have stable : isStable (normalizeKey "allowNil").toList = true := by decide
  have settled : Settled "allowNil" := (normalizeKey_fixed_iff _).mpr stable
  have flagged : empty.insert "allowNil" (.bool true) = .ok flag := by rfl
  have reached : Reached flag := .insert .empty settled flagged
  obtain ⟨distinct, refused, -, -, fixed, -⟩ := settled_options_form_map reached
  have colon : Settled ":AllowNil" := (fixed _).mpr (by decide)
  refine ⟨reached, distinct, (refused _ .null colon).mpr (.inr (by decide)), ?_, by rfl⟩
  rw [fixed]
  decide

end Conform.Options
