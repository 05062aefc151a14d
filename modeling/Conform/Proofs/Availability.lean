import Conform.Proofs.OptionOrder
import Conform.Proofs.Registrations

/-!
What a registration makes available. A kind is found by every spelling of its name, but a leaf kind
only if its name stays the same when it is normalized again. An alias is found unless its name is
that of another kind.
-/

namespace Conform
open Outcome
open Options (Settled)
open Text (normalizeKey)

/-- A leaf is of the kind that it is made for. -/
theorem Leaf.kind_of_ofOptions {kind : String} {test : TypeTest} {options : Options}
    {table : ValidatorTable} {l : Leaf} (h : ofOptions kind test options table = .ok l) :
    l.kind = kind := by
  have hs := toOption_eq_some_iff.mpr h
  rw [ofOptions_toOption, Option.bind_eq_some_iff] at hs
  obtain ⟨⟨start, rest⟩, htaken, hadded⟩ := hs
  obtain ⟨-, -, rfl⟩ := addOptions_eq_ok_iff.mp (toOption_eq_some_iff.mp hadded)
  exact (taking_eq_some htaken).1

namespace Registry

variable {r t start : Registry} {steps : List Registration} {s : Registration}
  {name other kind : String} {factory : PropertyFactory}

theorem kind_of_leafFactory {test : TypeTest} {forceNil : Bool} {options : Options}
    {directory : Directory} {p : Property}
    (h : leafFactory kind test forceNil options directory = .ok p) : p.kind = kind := by
  obtain ⟨l, hl, heq⟩ := bind_eq_ok_iff.mp h
  cases heq
  have hkind := Leaf.kind_of_ofOptions hl
  cases forceNil <;> exact hkind

/-- Every spelling of a name stands for a kind and builds by a factory. -/
structure Provides (r : Registry) (name kind : String) (factory : PropertyFactory) : Prop where
  resolves : ∀ spelling, normalizeKey spelling = normalizeKey name → r.resolve spelling = .ok kind
  builds : ∀ spelling options, normalizeKey spelling = normalizeKey name →
    r.buildProperty spelling options = factory options r.directory

/-- All other names stand for what they stood for. -/
def SparesOthers (name : String) (r t : Registry) : Prop :=
  ∀ other, normalizeKey other ≠ normalizeKey name → t.resolve other = r.resolve other

theorem resolve_eq (name : String) (r : Registry) : r.resolve name =
    (r.target? (normalizeKey name)).elim (.error (.unknownKind name)) .ok := by
  cases h : r.target? (normalizeKey name) with
  | some kind => exact resolve_eq_ok_iff.mpr h
  | none =>
    cases hr : r.resolve name with
    | ok kind =>
      rw [resolve_eq_ok_iff, h] at hr
      cases hr
    | error e =>
      rw [resolve_error hr]
      rfl

/-- A name under which nothing is registered stands for what it stood for. -/
theorem resolve_apply (h : ¬ s.Stores r (normalizeKey name)) :
    (s.apply r).resolve name = r.resolve name := by
  rw [resolve_eq, resolve_eq, (effect r s).target?_eq h]

theorem provides_of_target? (htarget : r.target? (normalizeKey name) = some kind)
    (hfactory : Assoc.lookup kind r.kinds = some factory) : r.Provides name kind factory := by
  have hresolve : ∀ spelling, normalizeKey spelling = normalizeKey name →
      r.resolve spelling = .ok kind := by
    intro spelling same
    rw [resolve_eq_ok_iff, same]
    exact htarget
  refine ⟨hresolve, ?_⟩
  intro spelling options same
  rw [buildProperty, hresolve spelling same, ok_bind, hfactory]

theorem provides_registerKind (name : String) (factory : PropertyFactory) (r : Registry) :
    (r.registerKind name factory).Provides name (normalizeKey name) factory :=
  provides_of_target? (if_pos Assoc.contains_store_self) Assoc.lookup_store

theorem sparesOthers_registerKind (name : String) (factory : PropertyFactory) (r : Registry) :
    SparesOthers name r (r.registerKind name factory) := by
  intro other hne
  refine resolve_apply (s := .kind name factory) ?_
  rintro (stores | stores)
  · exact hne stores.symm
  · exact stores

/-- A kind is found by every spelling of the name it is registered under, and so is a leaf kind
whose name is settled: its leaves are of the kind that the name stands for. Under any other name a
leaf kind is not found. The name goes on to stand for what it stood for, and the kind is stored
where its leaves do not say they are from. -/
theorem registered_kinds_are_found (r : Registry) (name : String) :
    (∀ factory, let t := r.registerKind name factory
      t.Provides name (normalizeKey name) factory ∧ SparesOthers name r t) ∧
    ∀ test, let t := r.registerLeafKind name test
      let factory := leafFactory (normalizeKey name) test false
      (Settled name → t.Provides name (normalizeKey name) factory ∧ SparesOthers name r t ∧
        ∀ options p, t.buildProperty name options = .ok p → t.resolve name = .ok p.kind) ∧
      (¬ Settled name → t.resolve name = r.resolve name ∧
        t.Provides (normalizeKey name) (normalizeKey (normalizeKey name)) factory ∧
        ∀ options p, t.buildProperty (normalizeKey name) options = .ok p →
          t.resolve (normalizeKey name) ≠ .ok p.kind) := by
  refine ⟨fun factory => ⟨provides_registerKind name factory r,
    sparesOthers_registerKind name factory r⟩, ?_⟩
  intro test t factory
  have provides : t.Provides (normalizeKey name) (normalizeKey (normalizeKey name)) factory :=
    provides_registerKind _ _ r
  have spares : SparesOthers (normalizeKey name) r t := sparesOthers_registerKind _ _ r
  constructor
  · intro settled
    unfold Settled at settled
    obtain ⟨resolves, builds⟩ := provides
    rw [settled] at resolves builds
    refine ⟨⟨resolves, builds⟩, ?_, ?_⟩
    · intro other hne
      refine spares other ?_
      rw [settled]
      exact hne
    · intro options p hp
      rw [builds name options rfl] at hp
      rw [resolves name rfl, kind_of_leafFactory hp]
  · intro unsettled
    refine ⟨spares name fun heq => unsettled heq.symm, provides, ?_⟩
    intro options p hp
    rw [provides.builds _ options rfl] at hp
    rw [provides.resolves _ rfl, kind_of_leafFactory hp]
    intro heq
    exact unsettled (Except.ok.inj heq)

/-- A leaf kind is found by the spellings of a settled name. A colon after a hyphen is stripped only
when the name is normalized again, and a kind of such a name is lost. -/
theorem leaf_kind_lost_behind_colon :
    let found := builtin.registerLeafKind "uuidV4" .string
    let lost := builtin.registerLeafKind "-:a" .string
    Settled "uuidV4" ∧ found.resolve ":uuid-v4" = .ok "uuid_v4" ∧
      (∃ l, found.buildProperty "UuidV4" .empty = .ok (.leaf l) ∧ l.kind = "uuid_v4") ∧
      ¬ Settled "-:a" ∧ lost.resolve "-:a" = .error (.unknownKind "-:a") ∧
      lost.resolve "a" = .ok "a" ∧
      ∃ l, lost.buildProperty "a" .empty = .ok (.leaf l) ∧ l.kind = ":a" := by
  intro found lost
  have settled : Settled "uuidV4" := rfl
  have unsettled : ¬ Settled "-:a" := by decide
  obtain ⟨provides, -, -⟩ := ((registered_kinds_are_found builtin "uuidV4").2 .string).1 settled
  obtain ⟨kept, moved, -⟩ := ((registered_kinds_are_found builtin "-:a").2 .string).2 unsettled
  exact ⟨settled, provides.resolves ":uuid-v4" rfl, ⟨_, rfl, rfl⟩, unsettled, kept.trans rfl,
    moved.resolves "a" rfl, ⟨_, rfl, rfl⟩⟩

theorem registerAlias_eq_ok_iff : r.registerAlias other name = .ok t ↔
    ∃ kind, r.resolve name = .ok kind ∧
      t = { r with aliases := Assoc.store (normalizeKey other) kind r.aliases } := by
  unfold registerAlias
  rw [bind_eq_ok_iff]
  refine exists_congr fun kind => and_congr_right fun _ => ?_
  rw [pure_eq_ok, Except.ok.injEq, eq_comm]

theorem apply_aliased (done : r.registerAlias other name = .ok t) :
    (Registration.aliased other name).apply r = t := by
  rw [Registration.apply, done]
  rfl

theorem sparesOthers_registerAlias (done : r.registerAlias other name = .ok t) :
    SparesOthers other r t := by
  intro spelling hne
  rw [← apply_aliased done]
  refine resolve_apply ?_
  rintro (stores | stores)
  · exact stores
  · exact hne stores.1.symm

/-- An alias is given the kind, unless its name is that of a kind, which then goes first. -/
theorem target?_registerAlias (done : r.registerAlias other name = .ok t)
    (known : r.resolve name = .ok kind) : t.target? (normalizeKey other) =
      if Assoc.contains (normalizeKey other) r.kinds then some (normalizeKey other)
      else some kind := by
  obtain ⟨found, hfound, rfl⟩ := registerAlias_eq_ok_iff.mp done
  rw [known] at hfound
  cases hfound
  rw [target?, Assoc.lookup_store]

/-- An alias that is accepted is given the factory of the kind, and all other names stand for what
they stood for. It works exactly if its name is not that of another kind. Otherwise it is accepted
and changes nothing that factories read, the names in their directory and the validators: every
name stands for what it stood for and builds as before. -/
theorem alias_works_iff_name_is_no_other_kind (hstart : start = empty ∨ start = builtin)
    (done : (start.after steps).registerAlias other name = .ok t) :
    let r := start.after steps
    ∃ kind factory, r.resolve name = .ok kind ∧ Assoc.lookup kind r.kinds = some factory ∧
      SparesOthers other r t ∧
      (t.Provides other kind factory ↔
        (Assoc.contains (normalizeKey other) r.kinds = true → normalizeKey other = kind)) ∧
      (Assoc.contains (normalizeKey other) r.kinds = true →
        ∀ spelling, t.resolve spelling = r.resolve spelling ∧
          ∀ options, t.buildProperty spelling options = r.buildProperty spelling options) := by
  intro r
  have closed : r.Closed := closed_of_start hstart steps
  obtain ⟨kind, known, ht⟩ := registerAlias_eq_ok_iff.mp done
  obtain ⟨factory, hfactory⟩ := closed.exists_factory known
  have spares := sparesOthers_registerAlias done
  have target := target?_registerAlias done known
  have hkinds : t.kinds = r.kinds := by rw [ht]
  refine ⟨kind, factory, known, hfactory, spares, ?_, ?_⟩
  · constructor
    · intro provides taken
      have hother := resolve_eq_ok_iff.mp (provides.resolves other rfl)
      rw [target, if_pos taken] at hother
      exact Option.some.inj hother
    · intro free
      refine provides_of_target? ?_ (hkinds ▸ hfactory)
      rw [target]
      split
      · rename_i taken
        rw [free taken]
      · rfl
  · intro taken
    have hresolve : ∀ spelling, t.resolve spelling = r.resolve spelling := by
      intro spelling
      by_cases same : normalizeKey spelling = normalizeKey other
      · rw [resolve_eq, resolve_eq, same, target, if_pos taken, target?, if_pos taken]
      · exact spares spelling same
    have hdirectory : t.directory = r.directory := by
      rw [directory, directory, funext hresolve, ht]
    refine fun spelling => ⟨hresolve spelling, fun options => ?_⟩
    rw [buildProperty, buildProperty, hresolve spelling, hkinds, hdirectory]

/-- A second name for a new kind works in every spelling. One for integers that is the name of texts
is accepted all the same, and the name goes on to stand for texts. -/
theorem alias_named_as_texts_is_ignored :
    let r := builtin.after [.leafKind "uuid" .string]
    let integers := leafFactory "integer" .integer false
    ∃ t u, r.registerAlias "Guid" ":uuid" = .ok t ∧
      t.Provides "Guid" "uuid" (leafFactory "uuid" .string false) ∧
      r.registerAlias "String" "integer" = .ok u ∧ r.resolve "integer" = .ok "integer" ∧
      ¬ u.Provides "String" "integer" integers ∧ u.resolve "string" = .ok "string" := by
  intro r integers
  obtain ⟨t, guid⟩ : ∃ t, r.registerAlias "Guid" ":uuid" = .ok t := ⟨_, rfl⟩
  obtain ⟨u, texts⟩ : ∃ u, r.registerAlias "String" "integer" = .ok u := ⟨_, rfl⟩
  obtain ⟨uuid, factory, known, found, -, works, -⟩ :=
    alias_works_iff_name_is_no_other_kind (.inr rfl) guid
  cases known
  cases found
  obtain ⟨integer, factory, known, found, -, fails, unchanged⟩ :=
    alias_works_iff_name_is_no_other_kind (.inr rfl) texts
  cases known
  cases found
  refine ⟨t, u, guid, works.mpr ?_, texts, rfl, ?_, (unchanged rfl "string").1⟩
  · intro taken
    cases taken
  · intro provides
    exact absurd (fails.mp provides rfl) (by decide)

end Registry

end Conform
