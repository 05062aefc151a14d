import Conform.Proofs.Assoc
import Conform.Proofs.Outcome
import Conform.Registry

/-!
Histories of registries. In whatever order kinds, aliases and validators are registered, an alias
stands for a kind that is there, and a name that stands for a kind always will.
-/

namespace Conform
open Outcome
open Text (normalizeKey)

/-- What can be registered. -/
inductive Registration where
  | kind (name : String) (factory : PropertyFactory)
  | leafKind (name : String) (test : TypeTest)
  | aliased (other name : String)
  | validator (name : String) (factory : ValidatorFactory)

namespace Registration

/-- The registry after a registration. An alias of an unknown kind is refused. -/
def apply (r : Registry) : Registration → Registry
  | kind name factory => r.registerKind name factory
  | leafKind name test => r.registerLeafKind name test
  | aliased other name => (r.registerAlias other name).toOption.getD r
  | validator name factory => r.registerValidator name factory

/-- A registration puts a kind under a key. -/
def StoresKind (key : String) : Registration → Prop
  | kind name _ => normalizeKey name = key
  | leafKind name _ => normalizeKey (normalizeKey name) = key
  | _ => False

/-- A registration puts an alias under a key. -/
def StoresAlias (r : Registry) (key : String) : Registration → Prop
  | aliased other name => normalizeKey other = key ∧ ∃ kind, r.resolve name = .ok kind
  | _ => False

/-- A registration puts a kind or an alias under a key. -/
def Stores (r : Registry) (key : String) (s : Registration) : Prop :=
  s.StoresKind key ∨ s.StoresAlias r key

end Registration

namespace Registry

/-- The registry after some registrations, one after the other. -/
def after (r : Registry) (steps : List Registration) : Registry := steps.foldl Registration.apply r

/-- What a key stands for. -/
def target? (key : String) (r : Registry) : Option String :=
  if Assoc.contains key r.kinds then some key else Assoc.lookup key r.aliases

/-- The factory that a name leads to. -/
def factory? (name : String) (r : Registry) : Option PropertyFactory :=
  (r.resolve name).toOption.bind fun kind => Assoc.lookup kind r.kinds

/-- Every alias stands for a kind that is there. -/
def Closed (r : Registry) : Prop :=
  ∀ other kind, (other, kind) ∈ r.aliases → Assoc.contains kind r.kinds = true

variable {r t start : Registry} {steps more : List Registration} {s : Registration}
  {name key kind other : String} {factory : PropertyFactory}

theorem resolve_eq_ok_iff :
    r.resolve name = .ok kind ↔ r.target? (normalizeKey name) = some kind := by
  simp only [resolve, target?]
  split
  · simp
  · cases Assoc.lookup (normalizeKey name) r.aliases <;> simp

theorem resolve_error {e : SchemaError} (h : r.resolve name = .error e) :
    e = .unknownKind name := by
  simp only [resolve] at h
  split at h
  · cases h
  · split at h
    · cases h
    · cases h
      rfl

theorem buildProperty_eq (options : Options) : r.buildProperty name options =
    match r.factory? name with
    | some factory => factory options r.directory
    | none => .error (.unknownKind name) := by
  unfold buildProperty factory?
  cases h : r.resolve name with
  | error e =>
    rw [resolve_error h]
    rfl
  | ok kind =>
    simp only [ok_bind, Except.toOption, Option.bind_some]
    cases Assoc.lookup kind r.kinds <;> rfl

/-- What a registration makes of a registry. -/
inductive Effect (r : Registry) (s : Registration) : Registry → Prop where
  | kind {key : String} {factory : PropertyFactory} (stores : s.StoresKind key) :
    Effect r s { r with
      kinds := Assoc.store key factory r.kinds, aliases := Assoc.erase key r.aliases }
  | aliased {key name kind : String} (stores : s.StoresAlias r key)
    (known : r.resolve name = .ok kind) :
    Effect r s { r with aliases := Assoc.store key kind r.aliases }
  | validators (table : ValidatorTable) : Effect r s { r with validators := table }

theorem effect (r : Registry) (s : Registration) : Effect r s (s.apply r) := by
  cases s with
  | kind name factory => exact .kind rfl
  | leafKind name test => exact .kind rfl
  | aliased other name =>
    simp only [Registration.apply, registerAlias]
    cases known : r.resolve name with
    | error e => exact .validators r.validators
    | ok kind => exact .aliased ⟨rfl, kind, known⟩ known
  | validator name factory => exact .validators _

theorem Effect.lookup_kinds (effect : Effect r s t) (h : ¬ s.StoresKind key) :
    Assoc.lookup key t.kinds = Assoc.lookup key r.kinds := by
  cases effect with
  | @kind stored factory stores =>
    refine Assoc.lookup_store_of_ne ?_
    rintro rfl
    exact h stores
  | aliased | validators => rfl

/-- What nothing is stored under stands for what it stood for. -/
theorem Effect.target?_eq (effect : Effect r s t) (h : ¬ s.Stores r key) :
    t.target? key = r.target? key := by
  cases effect with
  | @kind stored factory stores =>
    have hne : key ≠ stored := by
      rintro rfl
      exact h (.inl stores)
    simp only [target?, Assoc.contains_store_of_ne hne, Assoc.lookup_erase_of_ne hne]
  | @aliased stored _ _ stores =>
    have hne : key ≠ stored := by
      rintro rfl
      exact h (.inr stores)
    simp only [target?, Assoc.lookup_store_of_ne hne]
  | validators => rfl

theorem isSome_target?_iff : (r.target? key).isSome = true ↔
    Assoc.contains key r.kinds = true ∨ Assoc.contains key r.aliases = true := by
  unfold target?
  split
  · rename_i hk
    simp [hk]
  · rename_i hk
    rw [or_iff_right hk, Assoc.contains]

/-- A key that stands for something always will. -/
theorem Effect.isSome_target? (effect : Effect r s t) (h : (r.target? key).isSome = true) :
    (t.target? key).isSome = true := by
  rw [isSome_target?_iff] at h ⊢
  cases effect with
  | @kind stored factory _ =>
    by_cases heq : key = stored
    · left
      rw [heq]
      exact Assoc.contains_store_self
    · exact h.imp Assoc.contains_store (Assoc.contains_erase_of_ne heq).trans
  | aliased => exact h.imp id Assoc.contains_store
  | validators => exact h

theorem Effect.exists_target? (effect : Effect r s t) (h : r.target? key = some kind) :
    ∃ next, t.target? key = some next ∧ (next = kind ∨ s.Stores r key) := by
  by_cases stores : s.Stores r key
  · obtain ⟨next, hnext⟩ :=
      Option.isSome_iff_exists.mp (effect.isSome_target? (Option.isSome_of_mem h))
    exact ⟨next, hnext, .inr stores⟩
  · exact ⟨kind, (effect.target?_eq stores).trans h, .inl rfl⟩

theorem Closed.contains_of_target? (closed : r.Closed) (h : r.target? key = some kind) :
    Assoc.contains kind r.kinds = true := by
  unfold target? at h
  split at h
  · rename_i hk
    rw [← Option.some.inj h]
    exact hk
  · exact closed _ _ (Assoc.mem_of_lookup h)

theorem Effect.closed (effect : Effect r s t) (closed : r.Closed) : t.Closed := by
  cases effect with
  | kind =>
    intro other kind h
    exact Assoc.contains_store (closed other kind (List.eraseP_sublist.subset h))
  | aliased _ known =>
    intro other kind h
    rcases Assoc.mem_store h with rfl | old
    · exact closed.contains_of_target? (resolve_eq_ok_iff.mp known)
    · exact closed other kind old
  | validators => exact closed

theorem closed_empty : empty.Closed := by
  intro other kind h
  cases h

theorem closed_builtin : builtin.Closed := by
  intro other kind h
  simp only [builtin, List.mem_cons, List.not_mem_nil, or_false, Prod.mk.injEq] at h
  rcases h with ⟨_, rfl⟩ | ⟨_, rfl⟩ <;> rfl

theorem Closed.after (closed : r.Closed) (steps : List Registration) : (r.after steps).Closed := by
  induction steps generalizing r with
  | nil => exact closed
  | cons s rest ih => exact ih ((effect r s).closed closed)

/-- Every alias stands for a kind that is there, whatever has been registered. -/
theorem closed_of_start (hstart : start = empty ∨ start = builtin) (steps : List Registration) :
    (start.after steps).Closed := by
  rcases hstart with rfl | rfl
  · exact closed_empty.after steps
  · exact closed_builtin.after steps

theorem lookup_kinds_after (h : ∀ s ∈ steps, ¬ s.StoresKind key) :
    Assoc.lookup key (r.after steps).kinds = Assoc.lookup key r.kinds := by
  induction steps generalizing r with
  | nil => rfl
  | cons s rest ih =>
    obtain ⟨hs, hrest⟩ := List.forall_mem_cons.mp h
    exact (ih hrest).trans ((effect r s).lookup_kinds hs)

theorem exists_target?_after (steps : List Registration) (h : r.target? key = some kind) :
    ∃ last, (r.after steps).target? key = some last ∧
      (last = kind ∨ ∃ before s rest, steps = before ++ s :: rest ∧
        s.Stores (r.after before) key) := by
  induction steps generalizing r kind with
  | nil => exact ⟨kind, h, .inl rfl⟩
  | cons s rest ih =>
    obtain ⟨next, hnext, changed⟩ := (effect r s).exists_target? h
    obtain ⟨last, hlast, later⟩ := ih hnext
    refine ⟨last, hlast, ?_⟩
    -- The first step and the others may each have moved the name; the latest move is named.
    rcases later with rfl | ⟨before, s', rest', rfl, stores⟩
    · rcases changed with rfl | stores
      · exact .inl rfl
      · exact .inr ⟨[], s, rest, rfl, stores⟩
    · exact .inr ⟨s :: before, s', rest', rfl, stores⟩

theorem Closed.exists_factory (closed : r.Closed) (h : r.resolve name = .ok kind) :
    ∃ factory, Assoc.lookup kind r.kinds = some factory :=
  Option.isSome_iff_exists.mp (closed.contains_of_target? (resolve_eq_ok_iff.mp h))

/-- Whatever has been registered, an alias stands for a kind that is there, so the names that stand
for a kind are those by which a factory is reached. A name goes on to stand for a kind, and for the
same one until something is stored under that very name. -/
theorem names_stand_for_kinds (hstart : start = empty ∨ start = builtin)
    (steps : List Registration) :
    let r := start.after steps
    (∀ other kind, (other, kind) ∈ r.aliases → ∃ factory, (kind, factory) ∈ r.kinds) ∧
      (∀ name, ((∃ kind, r.resolve name = .ok kind) ↔ ∃ factory, r.factory? name = some factory) ∧
        ∀ options, r.buildProperty name options =
          match r.factory? name with
          | some factory => factory options r.directory
          | none => .error (.unknownKind name)) ∧
      ∀ more name kind, r.resolve name = .ok kind →
        ∃ last, (r.after more).resolve name = .ok last ∧
          (last = kind ∨ ∃ before s rest, more = before ++ s :: rest ∧
            s.Stores (r.after before) (normalizeKey name)) := by
  intro r
  have closed : r.Closed := closed_of_start hstart steps
  refine ⟨?_, ?_, ?_⟩
  · intro other kind h
    obtain ⟨factory, hf⟩ := Option.isSome_iff_exists.mp (closed other kind h)
    exact ⟨factory, Assoc.mem_of_lookup hf⟩
  · intro name
    refine ⟨?_, buildProperty_eq⟩
    constructor
    · rintro ⟨kind, h⟩
      obtain ⟨factory, hf⟩ := closed.exists_factory h
      refine ⟨factory, ?_⟩
      rw [factory?, h]
      exact hf
    · rintro ⟨factory, hf⟩
      obtain ⟨kind, h, -⟩ := Option.bind_eq_some_iff.mp hf
      exact ⟨kind, toOption_eq_some_iff.mp h⟩
  · intro more name kind h
    simp only [resolve_eq_ok_iff] at h ⊢
    exact exists_target?_after more h

/-- A second name for a kind outlives an alias of nothing, and the registration of its own kind,
which it stands for then. -/
theorem guid_stands_for_kinds :
    let steps : List Registration :=
      [.leafKind "uuid" .string, .aliased "Guid" ":uuid", .aliased "ghost" "phantom"]
    let more : List Registration := [.aliased "other" "guid", .leafKind "GUID" .integer]
    let r := builtin.after steps
    r.resolve "guid" = .ok "uuid" ∧
      (∃ last, (r.after more).resolve "guid" = .ok last ∧
        (last = "uuid" ∨ ∃ before s rest, more = before ++ s :: rest ∧
          s.Stores (r.after before) (normalizeKey "guid"))) ∧
      (r.after more).resolve "guid" = .ok "guid" ∧
      (r.after more).resolve "other" = .ok "uuid" := by
  intro steps more r
  have resolved : r.resolve "guid" = .ok "uuid" := rfl
  have kept := (names_stand_for_kinds (.inr rfl) steps).2.2 more "guid" "uuid" resolved
  exact ⟨resolved, kept, rfl, rfl⟩

end Registry

end Conform
