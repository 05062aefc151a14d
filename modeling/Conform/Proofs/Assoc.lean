import Conform.Assoc

/-!
Looking keys up in association lists.
-/

namespace Conform.Assoc
variable {α : Type} {key : String} {value : α} {entries : List (String × α)}

theorem lookup_nil (key : String) : lookup key ([] : List (String × α)) = none := rfl

theorem lookup_cons (key k : String) (v : α) (rest : List (String × α)) :
    lookup key ((k, v) :: rest) = if k = key then some v else lookup key rest := by
  by_cases h : k = key
  · simp [lookup, h]
  · have hne : (key == k) = false := beq_false_of_ne (Ne.symm h)
    simp [lookup, List.lookup_cons, h, hne]

theorem lookup_cons_self (key : String) (v : α) (rest : List (String × α)) :
    lookup key ((key, v) :: rest) = some v :=
  List.lookup_cons_self

theorem erase_cons (key k : String) (v : α) (rest : List (String × α)) :
    erase key ((k, v) :: rest) = if k = key then rest else (k, v) :: erase key rest := by
  by_cases h : k = key <;> simp [erase, h]

/-- Induction over a list up to the first entry of a key. -/
theorem lookup_induct (key : String) {motive : List (String × α) → Prop} (nil : motive [])
    (found : ∀ v rest, motive ((key, v) :: rest))
    (skipped : ∀ k v rest, k ≠ key → motive rest → motive ((k, v) :: rest))
    (entries : List (String × α)) : motive entries := by
  induction entries with
  | nil => exact nil
  | cons entry rest ih =>
    obtain ⟨k, v⟩ := entry
    by_cases hk : k = key
    · subst hk
      exact found v rest
    · exact skipped k v rest hk ih

theorem mem_of_lookup (h : lookup key entries = some value) : (key, value) ∈ entries := by
  obtain ⟨before, after, rfl, _⟩ := List.lookup_eq_some_iff.mp h
  simp

/-- Where keys differ, each entry is found under its key. -/
theorem lookup_of_mem (distinct : (entries.map (·.1)).Nodup) (h : (key, value) ∈ entries) :
    lookup key entries = some value := by
  induction entries with
  | nil => cases h
  | cons entry rest ih =>
    obtain ⟨k, v⟩ := entry
    obtain ⟨hk, hrest⟩ : k ∉ rest.map (·.1) ∧ (rest.map (·.1)).Nodup := by
      simpa only [List.map_cons, List.nodup_cons] using distinct
    rw [lookup_cons]
    rcases List.mem_cons.mp h with heq | h
    · obtain ⟨rfl, rfl⟩ := Prod.mk.inj heq
      exact if_pos rfl
    · have hne : k ≠ key := by
        rintro rfl
        exact hk (List.mem_map_of_mem (f := (·.1)) h)
      rw [if_neg hne, ih hrest h]

theorem lookup_eq_some_iff (distinct : (entries.map (·.1)).Nodup) :
    lookup key entries = some value ↔ (key, value) ∈ entries :=
  ⟨mem_of_lookup, lookup_of_mem distinct⟩

theorem eq_of_mem {other : α} (distinct : (entries.map (·.1)).Nodup)
    (h : (key, value) ∈ entries) (h' : (key, other) ∈ entries) : value = other :=
  Option.some.inj ((lookup_of_mem distinct h).symm.trans (lookup_of_mem distinct h'))

theorem mem_keys_iff : key ∈ entries.map (·.1) ↔ ∃ value, (key, value) ∈ entries := by
  simp

/-- Lists with the same keys have an entry under each. -/
theorem exists_of_perm {β : Type} {others : List (String × β)}
    (keys : (entries.map (·.1)).Perm (others.map (·.1))) (h : (key, value) ∈ entries) :
    ∃ other, (key, other) ∈ others :=
  mem_keys_iff.mp (keys.mem_iff.mp (mem_keys_iff.mpr ⟨value, h⟩))

theorem lookup_eq_none_iff : lookup key entries = none ↔ key ∉ entries.map (·.1) := by
  simp only [lookup, List.lookup_eq_none_iff, bne_iff_ne, List.mem_map, not_exists, not_and]
  exact forall₂_congr fun _ _ => ne_comm

/-- Under the same keys the values correspond. -/
theorem rel_lookup {β : Type} {R : String → α → β → Prop} {others : List (String × β)}
    (keys : ∀ key, key ∈ entries.map (·.1) ↔ key ∈ others.map (·.1))
    (values : ∀ key v w, (key, v) ∈ entries → (key, w) ∈ others → R key v w) (key : String) :
    Option.Rel (R key) (lookup key entries) (lookup key others) := by
  cases hv : lookup key entries with
  | none =>
    rw [lookup_eq_none_iff, keys key, ← lookup_eq_none_iff] at hv
    rw [hv]
    exact .none
  | some v =>
    cases hw : lookup key others with
    | none =>
      rw [lookup_eq_none_iff, ← keys key, ← lookup_eq_none_iff, hv] at hw
      cases hw
    | some w => exact .some (values key v w (mem_of_lookup hv) (mem_of_lookup hw))

theorem nodup_of_keys (distinct : (entries.map (·.1)).Nodup) : entries.Nodup :=
  (List.pairwise_map.mp distinct).imp fun hne heq => hne (congrArg (·.1) heq)

theorem contains_iff : contains key entries = true ↔ key ∈ entries.map (·.1) := by
  rw [contains, Option.isSome_iff_ne_none, ne_eq, lookup_eq_none_iff, Classical.not_not]

theorem store_of_not_mem (h : key ∉ entries.map (·.1)) :
    store key value entries = entries ++ [(key, value)] := by
  induction entries with
  | nil => rfl
  | cons entry rest ih =>
    obtain ⟨k, v⟩ := entry
    obtain ⟨hk, hrest⟩ : key ≠ k ∧ key ∉ rest.map (·.1) := by simpa using h
    rw [store, if_neg (Ne.symm hk), ih hrest, List.cons_append]

theorem lookup_append_of_not_mem (h : key ∉ entries.map (·.1)) (others : List (String × α)) :
    lookup key (entries ++ others) = lookup key others := by
  rw [lookup, List.lookup_append, ← lookup, lookup_eq_none_iff.mpr h, Option.none_or, ← lookup]

theorem lookup_map {β : Type} (f : String → α → β) (key : String) (entries : List (String × α)) :
    lookup key (entries.map fun entry => (entry.1, f entry.1 entry.2)) =
      (lookup key entries).map (f key) := by
  induction entries with
  | nil => rfl
  | cons entry rest ih =>
    obtain ⟨k, v⟩ := entry
    rw [List.map_cons, lookup_cons, lookup_cons]
    split
    · rename_i hk
      rw [hk, Option.map_some]
    · exact ih

theorem lookup_store : lookup key (store key value entries) = some value := by
  induction entries with
  | nil => rw [store, lookup_cons, if_pos rfl]
  | cons entry rest ih =>
    obtain ⟨k, v⟩ := entry
    rw [store]
    split
    · rename_i hk
      rw [lookup_cons, if_pos hk]
    · rename_i hk
      rw [lookup_cons, if_neg hk, ih]

theorem lookup_store_of_ne {other : String} (h : other ≠ key) :
    lookup other (store key value entries) = lookup other entries := by
  induction entries with
  | nil => rw [store, lookup_cons, if_neg h.symm]
  | cons entry rest ih =>
    obtain ⟨k, v⟩ := entry
    rw [store]
    split
    · rename_i hk
      have hne : k ≠ other := fun heq => h (heq.symm.trans hk)
      rw [lookup_cons, lookup_cons, if_neg hne, if_neg hne]
    · rw [lookup_cons, lookup_cons, ih]

theorem lookup_erase_of_ne {other : String} (h : other ≠ key) :
    lookup other (erase key entries) = lookup other entries := by
  induction entries with
  | nil => rfl
  | cons entry rest ih =>
    obtain ⟨k, v⟩ := entry
    rw [erase_cons]
    split
    · rename_i hk
      have hne : k ≠ other := fun heq => h (heq.symm.trans hk)
      rw [lookup_cons, if_neg hne]
    · rw [lookup_cons, lookup_cons, ih]

theorem contains_store_self : contains key (store key value entries) = true := by
  rw [contains, lookup_store]
  rfl

theorem contains_store_of_ne {other : String} (h : other ≠ key) :
    contains other (store key value entries) = contains other entries := by
  rw [contains, lookup_store_of_ne h, contains]

theorem contains_store {other : String} (h : contains other entries = true) :
    contains other (store key value entries) = true := by
  by_cases heq : other = key
  · rw [heq]
    exact contains_store_self
  · rw [contains_store_of_ne heq]
    exact h

theorem contains_erase_of_ne {other : String} (h : other ≠ key) :
    contains other (erase key entries) = contains other entries := by
  rw [contains, lookup_erase_of_ne h, contains]

/-- Storing changes no entry of another key. -/
theorem filter_ne_store : (store key value entries).filter (·.1 ≠ key) =
    entries.filter (·.1 ≠ key) := by
  induction entries with
  | nil => simp [store]
  | cons entry rest ih =>
    obtain ⟨k, v⟩ := entry
    rw [store]
    split
    · rename_i hk
      simp [hk]
    · rw [List.filter_cons, List.filter_cons, ih]

theorem keys_store_of_mem (h : key ∈ entries.map (·.1)) :
    (store key value entries).map (·.1) = entries.map (·.1) := by
  induction entries with
  | nil => cases h
  | cons entry rest ih =>
    obtain ⟨k, v⟩ := entry
    rw [store]
    split
    · rfl
    · rename_i hk
      have hrest : key ∈ rest.map (·.1) := by
        rcases List.mem_cons.mp h with heq | hrest
        · exact (hk heq.symm).elim
        · exact hrest
      rw [List.map_cons, ih hrest, List.map_cons]

/-- Entries with different keys take one more under a new key. -/
theorem nodup_append (distinct : (entries.map (·.1)).Nodup) (h : key ∉ entries.map (·.1)) :
    ((entries ++ [(key, value)]).map (·.1)).Nodup := by
  rw [List.map_append, List.nodup_append]
  refine ⟨distinct, by simp, ?_⟩
  intro k hk other hother
  obtain rfl : other = key := by simpa using hother
  rintro rfl
  exact h hk

theorem nodup_store (distinct : (entries.map (·.1)).Nodup) :
    ((store key value entries).map (·.1)).Nodup := by
  by_cases h : key ∈ entries.map (·.1)
  · rw [keys_store_of_mem h]
    exact distinct
  · rw [store_of_not_mem h]
    exact nodup_append distinct h

/-- After storing, an entry is the one stored or was there before. -/
theorem mem_store {k : String} {v : α} (h : (k, v) ∈ store key value entries) :
    v = value ∨ (k, v) ∈ entries := by
  induction entries with
  | nil =>
    obtain ⟨_, rfl⟩ := Prod.mk.inj (List.mem_singleton.mp h)
    exact .inl rfl
  | cons entry rest ih =>
    obtain ⟨k', v'⟩ := entry
    rw [store] at h
    split at h
    · rcases List.mem_cons.mp h with heq | hrest
      · exact .inl (Prod.mk.inj heq).2
      · exact .inr (List.mem_cons_of_mem _ hrest)
    · rcases List.mem_cons.mp h with heq | hrest
      · exact .inr (heq ▸ List.mem_cons_self)
      · exact (ih hrest).imp id (List.mem_cons_of_mem _)

theorem keys_erase (key : String) (entries : List (String × α)) :
    (erase key entries).map (·.1) = (entries.map (·.1)).erase key := by
  rw [List.erase_eq_eraseP', List.eraseP_map]
  rfl

theorem erase_eq_filter (distinct : (entries.map (·.1)).Nodup) :
    erase key entries = entries.filter (·.1 ≠ key) := by
  induction entries with
  | nil => rfl
  | cons entry rest ih =>
    obtain ⟨k, v⟩ := entry
    obtain ⟨hk, hrest⟩ := List.nodup_cons.mp distinct
    rw [erase_cons, List.filter_cons]
    by_cases heq : k = key
    · subst heq
      have hall : rest.filter (·.1 ≠ k) = rest := by
        rw [List.filter_eq_self]
        intro other hother
        have hne : other.1 ≠ k := by
          rintro rfl
          exact hk (List.mem_map_of_mem (f := (·.1)) hother)
        exact decide_eq_true hne
      rw [if_pos rfl, if_neg (by simp), hall]
    · rw [if_neg heq, if_pos (by simpa using heq), ih hrest]

/-- Only entries of the key go. -/
theorem filter_erase (key : String) {keep : String × α → Bool}
    (h : ∀ value, keep (key, value) = false) (entries : List (String × α)) :
    (erase key entries).filter keep = entries.filter keep := by
  induction entries with
  | nil => rfl
  | cons entry rest ih =>
    obtain ⟨k, v⟩ := entry
    rw [erase_cons]
    split
    · rename_i hk
      rw [hk, List.filter_cons_of_neg (by simp [h v])]
    · rw [List.filter_cons, List.filter_cons, ih]

theorem mem_erase_of_ne {entry : String × α} (hentry : entry ∈ entries) (hne : entry.1 ≠ key) :
    entry ∈ erase key entries :=
  (List.mem_eraseP_of_neg (by simpa using hne)).mpr hentry

variable {others : List (String × α)}

theorem lookup_perm (distinct : (entries.map (·.1)).Nodup) (hp : entries.Perm others) :
    lookup key entries = lookup key others := by
  have distinct' : (others.map (·.1)).Nodup := (hp.map _).nodup_iff.mp distinct
  apply Option.ext
  intro v
  rw [lookup_eq_some_iff distinct, lookup_eq_some_iff distinct', hp.mem_iff]

theorem erase_perm (distinct : (entries.map (·.1)).Nodup) (hp : entries.Perm others) :
    (erase key entries).Perm (erase key others) := by
  have distinct' : (others.map (·.1)).Nodup := (hp.map _).nodup_iff.mp distinct
  rw [erase_eq_filter distinct, erase_eq_filter distinct']
  exact hp.filter _

/-- Names that differ from each other and from those that are taken. -/
structure Fresh (taken names : List String) : Prop where
  distinct : names.Nodup
  free : ∀ name ∈ names, name ∉ taken

theorem fresh_nil (taken : List String) : Fresh taken [] := ⟨List.nodup_nil, by simp⟩

theorem fresh_iff_nodup {names : List String} : Fresh [] names ↔ names.Nodup :=
  ⟨Fresh.distinct, fun h => ⟨h, by simp⟩⟩

/-- Fresh names may be taken one by one. -/
theorem fresh_cons_iff {taken names : List String} {name : String} :
    Fresh taken (name :: names) ↔ name ∉ taken ∧ Fresh (taken ++ [name]) names := by
  constructor
  · rintro ⟨distinct, free⟩
    obtain ⟨hname, distinct⟩ := List.nodup_cons.mp distinct
    obtain ⟨hfree, free⟩ := List.forall_mem_cons.mp free
    refine ⟨hfree, distinct, ?_⟩
    intro other hother hmem
    rcases List.mem_append.mp hmem with htaken | hsame
    · exact free other hother htaken
    · rw [List.mem_singleton.mp hsame] at hother
      exact hname hother
  · rintro ⟨hfree, distinct, free⟩
    refine ⟨List.nodup_cons.mpr ⟨?_, distinct⟩, List.forall_mem_cons.mpr ⟨hfree, ?_⟩⟩
    · intro hmem
      exact free name hmem (by simp)
    · intro other hother htaken
      exact free other hother (List.mem_append_left _ htaken)

theorem Fresh.mono {taken fewer names : List String} (h : Fresh taken names)
    (hsub : fewer ⊆ taken) : Fresh fewer names :=
  ⟨h.distinct, fun name hname hmem => h.free name hname (hsub hmem)⟩

theorem fresh_perm_iff {taken names others : List String} (hp : names.Perm others) :
    Fresh taken names ↔ Fresh taken others := by
  have hfree : (∀ name ∈ names, name ∉ taken) ↔ ∀ name ∈ others, name ∉ taken :=
    forall_congr' fun name => by rw [hp.mem_iff]
  constructor
  · rintro ⟨distinct, free⟩
    exact ⟨hp.nodup_iff.mp distinct, hfree.mp free⟩
  · rintro ⟨distinct, free⟩
    exact ⟨hp.nodup_iff.mpr distinct, hfree.mpr free⟩

end Conform.Assoc
