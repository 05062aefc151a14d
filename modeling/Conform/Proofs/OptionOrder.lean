import Mathlib.Data.List.Induction
import Mathlib.Data.List.Perm.Subperm
import Conform.Proofs.OptionSets
import Conform.Proofs.SchemaOrder

/-!
Options in another order. Insertion looks back only, so for keys that are not settled it may depend
on the order; but whatever a builtin kind makes of the options it refuses such keys where they
matter, and in the end the order of options decides nothing.
-/

namespace Conform

namespace Options
open Outcome
open Text (normalizeKey)

variable {o p next : Options} {key : String} {value : Json} {fields others : List (String × Json)}
variable {names : List String} {α β : Type}

/-- Names that lead to different names when they are normalized again, which then stay. -/
structure Apart (names : List String) : Prop where
  distinct : (names.map normalizeKey).Nodup
  settled : ∀ name ∈ names, Settled name

theorem Apart.perm {more : List String} (h : Apart names) (hp : names.Perm more) : Apart more where
  distinct := (hp.map _).nodup_iff.mp h.distinct
  settled := fun name hname => h.settled name (hp.mem_iff.mpr hname)

theorem Apart.subperm {more : List String} (h : Apart names) (hs : more.Subperm names) :
    Apart more := by
  obtain ⟨list, hp, hsub⟩ := hs
  refine Apart.perm ⟨h.distinct.sublist (hsub.map _), ?_⟩ hp
  intro name hname
  exact h.settled name (hsub.subset hname)

theorem Apart.nodup (h : Apart names) : names.Nodup :=
  (List.pairwise_map.mp h.distinct).imp fun hne heq => hne (congrArg normalizeKey heq)

/-- No name stands for what another leads to: an insertion would take it for repeated. -/
theorem Apart.pairwise (h : Apart names) : names.Pairwise fun a b => a ≠ normalizeKey b := by
  have hdistinct : names.Pairwise fun a b => normalizeKey a ≠ normalizeKey b :=
    List.pairwise_map.mp h.distinct
  refine hdistinct.imp_of_mem ?_
  rintro _ b _ hb hne rfl
  exact hne (h.settled b hb)

/-- The fields under their normalized names. -/
def stored (fields : List (String × Json)) : List (String × Json) :=
  fields.map fun field => (normalizeKey field.1, field.2)

/-- A name must not be blank, and none before it may be what it is normalized to. -/
theorem insertAll_eq_ok_iff : empty.insertAll fields = .ok next ↔
    (∀ entry ∈ stored fields, entry.1 ≠ "") ∧
      ((stored fields).map (·.1)).Pairwise (fun a b => a ≠ normalizeKey b) ∧
        next = ⟨stored fields⟩ := by
  induction fields using List.reverseRecOn generalizing next with
  | nil =>
    constructor
    · rintro ⟨⟩
      exact ⟨by simp [stored], by simp [stored], rfl⟩
    · rintro ⟨-, -, rfl⟩
      rfl
  | append_singleton fields field ih =>
    have hlast : empty.insertAll (fields ++ [field]) =
        empty.insertAll fields >>= fun o => o.insert field.1 field.2 := by
      rw [insertAll, List.foldlM_append]
      simp only [List.foldlM_cons, List.foldlM_nil, bind_pure]
      rfl
    have hstored : stored (fields ++ [field]) =
        stored fields ++ [(normalizeKey field.1, field.2)] := List.map_append
    rw [hlast, bind_eq_ok_iff, hstored, List.forall_mem_append, List.map_append,
      List.pairwise_append]
    simp only [ih, insert_eq_ok_iff]
    constructor
    · rintro ⟨_, ⟨hblanks, hpair, rfl⟩, hblank, hfresh, rfl⟩
      refine ⟨⟨hblanks, by simpa using hblank⟩, ⟨hpair, by simp, ?_⟩, rfl⟩
      rintro a ha _ hb rfl
      rw [List.mem_singleton.mp hb] at ha
      exact hfresh ha
    · rintro ⟨⟨hblanks, hblank⟩, ⟨hpair, -, hfresh⟩, rfl⟩
      refine ⟨_, ⟨hblanks, hpair, rfl⟩, by simpa using hblank, ?_, rfl⟩
      intro hmem
      exact hfresh _ hmem _ (by simp) rfl

/-- Names that are apart are accepted in any order. -/
theorem insertAll_of_perm (hp : fields.Perm others) (hok : empty.insertAll fields = .ok o)
    (apart : Apart o.names) :
    empty.insertAll others = .ok ⟨stored others⟩ ∧ o.entries.Perm (stored others) := by
  obtain ⟨hblanks, -, rfl⟩ := insertAll_eq_ok_iff.mp hok
  have hstored : (stored fields).Perm (stored others) := hp.map _
  refine ⟨insertAll_eq_ok_iff.mpr ⟨?_, ?_, rfl⟩, hstored⟩
  · intro entry hentry
    exact hblanks entry (hstored.mem_iff.mpr hentry)
  · exact (apart.perm (hstored.map _)).pairwise

/-- Nothing is made from options unless their names are apart, and what is made then does not depend
on their order. -/
structure Orderless (R : α → α → Prop) (make : Options → Option α) : Prop where
  apart : ∀ o a, make o = some a → Apart o.names
  alike : ∀ o p, Apart o.names → o.entries.Perm p.entries → Option.Rel R (make o) (make p)

/-- Fields in another order are accepted as well and make the same. -/
theorem Orderless.insertAll {R : α → α → Prop} {make : Options → Option α}
    (h : Orderless R make) (hp : fields.Perm others) :
    Option.Rel R ((empty.insertAll fields).toOption.bind make)
      ((empty.insertAll others).toOption.bind make) := by
  simp only [rel_iff, Option.bind_eq_some_iff, toOption_eq_some_iff]
  constructor
  · rintro a ⟨o, ho, ha⟩
    have apart := h.apart o a ha
    obtain ⟨hothers, hentries⟩ := insertAll_of_perm hp ho apart
    have hrel := h.alike o _ apart hentries
    rw [ha] at hrel
    obtain ⟨b, hb, hab⟩ := (rel_iff.mp hrel).1 a rfl
    exact ⟨b, ⟨_, hothers, hb⟩, hab⟩
  · rintro b ⟨p, hp', hb⟩
    have apart := h.apart p b hb
    obtain ⟨hfields, hentries⟩ := insertAll_of_perm hp.symm hp' apart
    have hrel := h.alike p _ apart hentries
    rw [hb] at hrel
    obtain ⟨a, ha, -⟩ := (rel_iff.mp hrel).1 b rfl
    exact ⟨a, _, hfields, ha⟩

theorem orderless_none {R : α → α → Prop} : Orderless R fun _ => none where
  apart := by
    intro o a h
    cases h
  alike := fun _ _ _ _ => .none

theorem Orderless.map {R : α → α → Prop} {S : β → β → Prop} {make : Options → Option α}
    (h : Orderless R make) (f : α → β) (hf : ∀ a b, R a b → S (f a) (f b)) :
    Orderless S fun o => (make o).map f where
  apart := by
    intro o b hb
    obtain ⟨a, ha, -⟩ := Option.map_eq_some_iff.mp hb
    exact h.apart o a ha
  alike := fun o p apart hp => rel_map (h.alike o p apart hp) hf

theorem Orderless.of_eq {R : α → α → Prop} {make : Options → Option α}
    (h : Orderless (· = ·) make) (hself : ∀ o a, make o = some a → R a a) : Orderless R make where
  apart := h.apart
  alike := by
    intro o p apart hp
    have hrel := h.alike o p apart hp
    rw [rel_iff] at hrel ⊢
    refine ⟨?_, hrel.2⟩
    intro a ha
    obtain ⟨b, hb, rfl⟩ := hrel.1 a ha
    exact ⟨a, hb, hself o a ha⟩

/-- The same options in some order, with different names. -/
structure SameSet (o p : Options) : Prop where
  distinct : o.names.Nodup
  perm : o.entries.Perm p.entries

/-- A step that takes no options but those of a list of names, each once, and does the same whatever
the order of the options is. -/
structure Taking (names : List String) (x : Attempt Options α) : Prop where
  within : ∀ o a rest, x.after? o = some (a, rest) → o.names.Subperm (names ++ rest.names)
  unordered : ∀ o p, SameSet o p →
    Option.Rel (fun r s : α × Options => r.1 = s.1 ∧ SameSet r.2 s.2) (x.after? o) (x.after? p)

theorem taking_pure (a : α) : Taking [] (pure a : Attempt Options α) where
  within := by
    intro o _ _ h
    cases h
    exact List.Subperm.refl _
  unordered := fun _ _ h => .some ⟨rfl, h⟩

theorem taking_throw (e : SchemaError) : Taking [] (throw e : Attempt Options α) where
  within := by
    intro o _ _ h
    cases h
  unordered := fun _ _ _ => .none

theorem Taking.bind {more : List String} {x : Attempt Options α} {f : α → Attempt Options β}
    (hx : Taking names x) (hf : ∀ a, Taking more (f a)) : Taking (names ++ more) (x >>= f) where
  within := by
    intro o b rest h
    rw [AttemptT.after?_bind, Option.bind_eq_some_iff] at h
    obtain ⟨⟨a, middle⟩, ha, hb⟩ := h
    have hfirst := hx.within o a middle ha
    have hrest := (hf a).within middle b rest hb
    rw [List.append_assoc]
    exact hfirst.trans ((List.subperm_append_left names).mpr hrest)
  unordered := by
    intro o p h
    rw [AttemptT.after?_bind, AttemptT.after?_bind]
    refine rel_bind (hx.unordered o p h) ?_
    rintro ⟨a, r⟩ ⟨b, s⟩ ⟨hab, hrs⟩
    cases hab
    exact (hf a).unordered r s hrs

theorem taking_take (key : String) : Taking [normalizeKey key] (take key) where
  within := by
    intro o a rest h
    have hnames : rest.names = o.names.erase (normalizeKey key) := by
      cases h
      exact Assoc.keys_erase _ _
    rw [hnames]
    exact List.subperm_cons_erase _ _
  unordered := by
    intro o p h
    refine .some ⟨Assoc.lookup_perm h.distinct h.perm, ?_, Assoc.erase_perm h.distinct h.perm⟩
    exact h.distinct.sublist (List.eraseP_sublist.map _)

theorem taking_takeBool (key : String) (default : Bool) :
    Taking [normalizeKey key] (takeBool key default) := by
  refine (taking_take key).bind fun found => ?_
  split
  · exact taking_pure _
  · exact taking_pure _
  · exact taking_throw _

theorem take_after? (key : String) (o : Options) : (take key).after? o =
    some (o.get? key, ⟨Assoc.erase (normalizeKey key) o.entries⟩) := rfl

theorem entries_of_takeBool {default b : Bool} {rest : Options}
    (h : (takeBool key default).after? o = some (b, rest)) :
    rest.entries = Assoc.erase (normalizeKey key) o.entries := by
  rw [takeBool, AttemptT.after?_bind, take_after?, Option.bind_some] at h
  dsimp only at h
  split at h <;> cases h <;> rfl

theorem taking_takeSize (key : String) : Taking [normalizeKey key] (takeSize key) := by
  refine (taking_take key).bind fun found => ?_
  split
  · exact taking_pure _
  · exact taking_pure _
  · split
    · exact taking_pure _
    · exact taking_throw _
  · exact taking_throw _

theorem consume_toOption (taking : Attempt Options α) (kind : String) (o : Options) :
    (o.consume taking kind).toOption =
      (taking.after? o).bind fun r => if r.2.entries.isEmpty then some r.1 else none := by
  unfold consume AttemptT.after?
  generalize taking.outcome o = r
  obtain ⟨result, ⟨entries⟩⟩ := r
  cases result with
  | error e => rfl
  | ok a => cases entries <;> rfl

/-- Nothing is left over, so the names are among those that are taken. -/
theorem Taking.names_subperm {taking : Attempt Options α} (h : Taking names taking) {kind : String}
    {a : α} (hok : o.consume taking kind = .ok a) : o.names.Subperm names := by
  have hs := toOption_eq_some_iff.mpr hok
  rw [consume_toOption, Option.bind_eq_some_iff] at hs
  obtain ⟨⟨_, rest⟩, htaken, hrest⟩ := hs
  split at hrest
  · rename_i hempty
    have hnone : rest.names = [] := by
      rw [Options.names, List.isEmpty_iff.mp hempty]
      rfl
    have hwithin := h.within o _ rest htaken
    rw [hnone, List.append_nil] at hwithin
    exact hwithin
  · cases hrest

theorem Taking.orderless {taking : Attempt Options α} (h : Taking names taking)
    (known : Apart names) (kind : String) :
    Orderless (· = ·) fun o => (o.consume taking kind).toOption where
  apart := fun _ _ ha => known.subperm (h.names_subperm (toOption_eq_some_iff.mp ha))
  alike := by
    intro o p apart hp
    rw [consume_toOption, consume_toOption]
    refine rel_bind (h.unordered o p ⟨apart.nodup, hp⟩) ?_
    rintro ⟨a, r⟩ ⟨b, s⟩ ⟨hab, hrs⟩
    cases hab
    have hempty : r.entries.isEmpty = s.entries.isEmpty := by
      rw [Bool.eq_iff_iff, List.isEmpty_iff, List.isEmpty_iff, ← List.length_eq_zero_iff,
        ← List.length_eq_zero_iff, hrs.perm.length_eq]
    dsimp only
    rw [hempty]
    exact rel_self fun _ _ => rfl

end Options

open Options Outcome
open Text (normalizeKey)

/-- The options of a hash. -/
def HashSchema.optionNames : List String := ["required", "allow_nil", "strict_mode"]

/-- The options of an array. -/
def ArraySchema.optionNames : List String :=
  ["required", "allow_nil", "validates_uniqueness", "min_size", "max_size"]

theorem HashSchema.exists_taking {P : Type} : ∃ taking : Attempt Options (HashSchema P),
    Taking optionNames taking ∧ ∀ o, ofOptions o = o.consume taking hashKind := by
  have settled : optionNames.map normalizeKey = optionNames := by decide
  rw [← settled]
  refine ⟨_, ?_, fun _ => rfl⟩
  exact (taking_takeBool _ _).bind fun _ => (taking_takeBool _ _).bind fun _ =>
    (taking_takeBool _ _).bind fun _ => taking_pure _

theorem ArraySchema.exists_taking {P : Type} : ∃ taking : Attempt Options (ArraySchema P),
    Taking optionNames taking ∧ ∀ o, ofOptions o = o.consume taking arrayKind := by
  have settled : optionNames.map normalizeKey = optionNames := by decide
  rw [← settled]
  refine ⟨_, ?_, fun _ => rfl⟩
  exact (taking_takeBool _ _).bind fun _ => (taking_takeBool _ _).bind fun _ =>
    (taking_takeBool _ _).bind fun _ => (taking_takeSize _).bind fun _ =>
      (taking_takeSize _).bind fun _ => taking_pure _

/-- No option of another name is accepted. -/
theorem HashSchema.known_of_ofOptions {P : Type} {o : Options} {start : HashSchema P}
    {name : String} (h : ofOptions o = .ok start) (hname : name ∈ o.names) :
    name ∈ optionNames := by
  obtain ⟨taking, htaking, heq⟩ := exists_taking (P := P)
  rw [heq] at h
  exact (htaking.names_subperm h).subset hname

theorem ArraySchema.known_of_ofOptions {P : Type} {o : Options} {start : ArraySchema P}
    {name : String} (h : ofOptions o = .ok start) (hname : name ∈ o.names) :
    name ∈ optionNames := by
  obtain ⟨taking, htaking, heq⟩ := exists_taking (P := P)
  rw [heq] at h
  exact (htaking.names_subperm h).subset hname

theorem HashSchema.orderless_ofOptions {P : Type} :
    Orderless (· = ·) fun o => (HashSchema.ofOptions (P := P) o).toOption := by
  obtain ⟨taking, htaking, heq⟩ := HashSchema.exists_taking (P := P)
  simp only [heq]
  exact htaking.orderless ⟨by decide, by decide⟩ hashKind

theorem ArraySchema.orderless_ofOptions {P : Type} :
    Orderless (· = ·) fun o => (ArraySchema.ofOptions (P := P) o).toOption := by
  obtain ⟨taking, htaking, heq⟩ := ArraySchema.exists_taking (P := P)
  simp only [heq]
  exact htaking.orderless ⟨by decide, by decide⟩ arrayKind

namespace Validator
variable {name : String} {config : Json} {w : Validator}

theorem name_of_build (h : build name config = .ok w) : w.name = name := by
  unfold build at h
  split at h
  case h_14 => cases h
  all_goals
    obtain ⟨_, _, rfl⟩ := map_eq_ok_iff.mp h
    rfl

theorem name_of_table (h : Registry.builtin.validators.build name config = .ok w) :
    w.name = normalizeKey name ∧ normalizeKey name ∈ builtinNames := by
  unfold ValidatorTable.build at h
  split at h
  · rename_i factory hf
    obtain ⟨known, rfl⟩ := Registry.validator_of_lookup hf
    exact ⟨name_of_build h, known⟩
  · cases h

theorem normalizeKey_builtinNames : ∀ name ∈ builtinNames, normalizeKey name = name := by decide

end Validator

namespace Leaf
variable {l k : Leaf} {table : ValidatorTable} {entries others : List (String × Json)}

/-- The validators that a table makes from options. -/
def validatorsOf (table : ValidatorTable) (entries : List (String × Json)) : List Validator :=
  entries.filterMap fun entry => (table.build entry.1 entry.2).toOption

theorem validatorsOf_cons {name : String} {config : Json} {w : Validator}
    (hw : table.build name config = .ok w) :
    validatorsOf table ((name, config) :: entries) = w :: validatorsOf table entries := by
  simp [validatorsOf, hw]

theorem names_validatorsOf
    (hall : ∀ entry ∈ entries, ∃ w, table.build entry.1 entry.2 = .ok w ∧
      w.name = normalizeKey entry.1) :
    (validatorsOf table entries).map (·.name) = (entries.map (·.1)).map normalizeKey := by
  induction entries with
  | nil => rfl
  | cons entry entries ih =>
    obtain ⟨name, config⟩ := entry
    obtain ⟨⟨w, hw, hname⟩, hrest⟩ := List.forall_mem_cons.mp hall
    rw [validatorsOf_cons hw, List.map_cons, hname, ih hrest]
    rfl

theorem addValidator_eq_ok_iff {w : Validator} : l.addValidator w = .ok k ↔
    w.name ∉ l.validators.map (·.name) ∧ k = { l with validators := l.validators ++ [w] } := by
  have htaken : (l.validator? w.name).isSome = true ↔ w.name ∈ l.validators.map (·.name) := by
    simp [validator?]
  unfold addValidator
  split
  · rename_i hsome
    simp [htaken.mp hsome]
  · rename_i hnone
    simp [mt htaken.mpr hnone, eq_comm]

/-- Every option makes a validator, and their names differ from each other and from those that are
there. -/
theorem addOptions_eq_ok_iff : l.addOptions table entries = .ok k ↔
    (∀ entry ∈ entries, ∃ w, table.build entry.1 entry.2 = .ok w) ∧
      Assoc.Fresh (l.validators.map (·.name)) ((validatorsOf table entries).map (·.name)) ∧
        k = { l with validators := l.validators ++ validatorsOf table entries } := by
  induction entries generalizing l k with
  | nil =>
    have hself : { l with validators := l.validators ++ validatorsOf table [] } = l := by
      simp [validatorsOf]
    rw [hself]
    simp [addOptions, validatorsOf, Assoc.fresh_nil, eq_comm]
  | cons entry entries ih =>
    obtain ⟨name, config⟩ := entry
    rw [addOptions, bind_eq_ok_iff, List.forall_mem_cons]
    constructor
    · rintro ⟨w, hw, h⟩
      obtain ⟨m, hm, h⟩ := bind_eq_ok_iff.mp h
      obtain ⟨hnew, rfl⟩ := addValidator_eq_ok_iff.mp hm
      obtain ⟨hall, hfresh, rfl⟩ := ih.mp h
      rw [List.map_append] at hfresh
      rw [validatorsOf_cons hw]
      exact ⟨⟨⟨w, hw⟩, hall⟩, Assoc.fresh_cons_iff.mpr ⟨hnew, hfresh⟩, by simp⟩
    · rintro ⟨⟨⟨w, hw⟩, hall⟩, hfresh, rfl⟩
      rw [validatorsOf_cons hw] at hfresh ⊢
      obtain ⟨hnew, hfresh⟩ := Assoc.fresh_cons_iff.mp hfresh
      refine ⟨w, hw, bind_eq_ok_iff.mpr ⟨_, addValidator_eq_ok_iff.mpr ⟨hnew, rfl⟩, ?_⟩⟩
      rw [ih, List.map_append]
      exact ⟨hall, hfresh, by simp⟩

theorem addOptions_reordered (hp : entries.Perm others) (l : Leaf) :
    Option.Rel Reordered (l.addOptions table entries).toOption
      (l.addOptions table others).toOption := by
  have hmade : (validatorsOf table entries).Perm (validatorsOf table others) := hp.filterMap _
  have hall : (∀ entry ∈ entries, ∃ w, table.build entry.1 entry.2 = .ok w) ↔
      ∀ entry ∈ others, ∃ w, table.build entry.1 entry.2 = .ok w :=
    forall_congr' fun entry => by rw [hp.mem_iff]
  simp only [rel_iff, toOption_eq_some_iff, addOptions_eq_ok_iff, hall,
    Assoc.fresh_perm_iff (hmade.map (·.name))]
  constructor
  · rintro k ⟨hbuilt, hfresh, rfl⟩
    refine ⟨{ l with validators := l.validators ++ validatorsOf table others },
      ⟨hbuilt, hfresh, rfl⟩, ?_⟩
    exact ⟨rfl, rfl, rfl, rfl, hmade.append_left _⟩
  · rintro k ⟨hbuilt, hfresh, -⟩
    exact ⟨_, hbuilt, hfresh, rfl⟩

/-- A leaf without validators yet, from its flags. -/
def taking (kind : String) (test : TypeTest) : Attempt Options Leaf := do
  let required ← Options.takeBool "required" true
  let allowNil ← Options.takeBool "allow_nil" false
  return { Leaf.new kind test with required := required, allowNil := allowNil }

theorem ofOptions_toOption (kind : String) (test : TypeTest) (o : Options) :
    (ofOptions kind test o table).toOption =
      ((taking kind test).after? o).bind fun r => (r.1.addOptions table r.2.entries).toOption := by
  unfold ofOptions taking AttemptT.after?
  dsimp only
  generalize AttemptT.outcome _ o = r
  obtain ⟨result, rest⟩ := r
  cases result <;> rfl

/-- The flags are taken out, and nothing else is. -/
theorem taking_eq_some {kind : String} {test : TypeTest} {o rest : Options}
    (h : (taking kind test).after? o = some (l, rest)) :
    l.kind = kind ∧ l.validators = [] ∧
      rest.entries = Assoc.erase "allow_nil" (Assoc.erase "required" o.entries) := by
  simp only [taking, AttemptT.after?_bind, AttemptT.after?_pure, Option.bind_eq_some_iff] at h
  obtain ⟨⟨required, middle⟩, hrequired, ⟨allowNil, last⟩, hallow, heq⟩ := h
  cases heq
  refine ⟨rfl, rfl, ?_⟩
  rw [Options.entries_of_takeBool hallow, Options.entries_of_takeBool hrequired]
  rfl

def flagNames : List String := ["required", "allow_nil"]

theorem taking_taking (kind : String) (test : TypeTest) : Taking flagNames (taking kind test) :=
  (taking_takeBool "required" true).bind fun _ => (taking_takeBool "allow_nil" false).bind
    fun _ => taking_pure _

/-- Builtin validators have settled names, which are no flags. -/
theorem apart_of_addOptions {o : Options}
    (h : l.addOptions Registry.builtin.validators o.entries = .ok k) :
    Apart (flagNames ++ o.names) := by
  obtain ⟨hall, hfresh, -⟩ := addOptions_eq_ok_iff.mp h
  have hknown : ∀ name ∈ o.names, normalizeKey name ∈ Validator.builtinNames := by
    intro name hname
    obtain ⟨config, hentry⟩ := Assoc.mem_keys_iff.mp hname
    obtain ⟨w, hw⟩ := hall _ hentry
    exact (Validator.name_of_table hw).2
  have hnames : (validatorsOf Registry.builtin.validators o.entries).map (·.name) =
      o.names.map normalizeKey := by
    apply names_validatorsOf
    intro entry hentry
    obtain ⟨w, hw⟩ := hall entry hentry
    exact ⟨w, hw, (Validator.name_of_table hw).1⟩
  have hnodup : (o.names.map normalizeKey).Nodup := hnames ▸ hfresh.distinct
  refine ⟨?_, ?_⟩
  · rw [List.map_append, List.nodup_append]
    refine ⟨by decide, hnodup, ?_⟩
    intro a ha b hb heq
    obtain ⟨name, hname, rfl⟩ := List.mem_map.mp hb
    have hflag : ∀ a ∈ flagNames.map normalizeKey, a ∉ Validator.builtinNames := by decide
    exact hflag a ha (heq ▸ hknown name hname)
  · intro name hname
    rcases List.mem_append.mp hname with hname | hname
    · have hflags : ∀ name ∈ flagNames, Settled name := by decide
      exact hflags name hname
    · exact Validator.normalizeKey_builtinNames _ (hknown name hname)

theorem orderless_ofOptions (kind : String) (test : TypeTest) :
    Orderless Reordered fun o =>
      (ofOptions kind test o Registry.builtin.validators).toOption where
  apart := by
    intro o l hl
    rw [ofOptions_toOption, Option.bind_eq_some_iff] at hl
    obtain ⟨⟨start, rest⟩, htaken, hl⟩ := hl
    have hwithin := (taking_taking kind test).within o start rest htaken
    exact (apart_of_addOptions (toOption_eq_some_iff.mp hl)).subperm hwithin
  alike := by
    intro o p apart hp
    rw [ofOptions_toOption, ofOptions_toOption]
    refine rel_bind ((taking_taking kind test).unordered o p ⟨apart.nodup, hp⟩) ?_
    rintro ⟨start, r⟩ ⟨start', s⟩ ⟨heq, hrs⟩
    cases heq
    exact addOptions_reordered hrs.perm start

end Leaf

namespace Registry

theorem orderless_leafFactory (kind : String) (test : TypeTest) (forceNil : Bool) :
    Orderless Property.Reordered fun o =>
      (leafFactory kind test forceNil o builtin.directory).toOption := by
  have hfactory : ∀ o, (leafFactory kind test forceNil o builtin.directory).toOption =
      (Leaf.ofOptions kind test o builtin.validators).toOption.map fun leaf =>
        .leaf (if forceNil then { leaf with allowNil := true } else leaf) :=
    fun o => toOption_bind_pure _ _
  simp only [hfactory]
  refine (Leaf.orderless_ofOptions kind test).map _ ?_
  intro l k same
  cases forceNil with
  | true => exact .leaf ⟨same.kind, same.test, same.required, rfl, same.validators⟩
  | false => exact .leaf same

/-- What a builtin kind makes of options does not depend on their order, but for the order of a
leaf's validators. -/
theorem orderless_buildProperty (kind : String) :
    Orderless Property.Reordered fun o => (builtin.buildProperty kind o).toOption := by
  have hself : ∀ o p, (builtin.buildProperty kind o).toOption = some p → p.Reordered p :=
    fun o p hp => (wellNamed_builtin kind o p (toOption_eq_some_iff.mp hp)).reordered_self
  cases hk : builtin.resolve kind with
  | error e =>
    have hnone : ∀ o, (builtin.buildProperty kind o).toOption = none := by
      intro o
      simp [buildProperty, hk]
    simp only [hnone]
    exact orderless_none
  | ok name =>
    cases hf : Assoc.lookup name builtin.kinds with
    | none =>
      have hnone : ∀ o, (builtin.buildProperty kind o).toOption = none := by
        intro o
        simp only [buildProperty, hk, ok_bind, hf]
        rfl
      simp only [hnone]
      exact orderless_none
    | some factory =>
      have hmade : ∀ o, (builtin.buildProperty kind o).toOption =
          (factory o builtin.directory).toOption := by
        intro o
        simp only [buildProperty, hk, ok_bind, hf]
      simp only [hmade] at hself ⊢
      cases factory_of_lookup hf with
      | leaf _ => exact orderless_leafFactory _ _ _
      | array =>
        refine .of_eq ?_ hself
        simp only [arrayFactory, toOption_map]
        exact ArraySchema.orderless_ofOptions.map _ fun _ _ => congrArg _
      | hash =>
        refine .of_eq ?_ hself
        simp only [hashFactory, toOption_map]
        exact HashSchema.orderless_ofOptions.map _ fun _ _ => congrArg _

end Registry

end Conform
