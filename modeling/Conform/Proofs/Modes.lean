import Mathlib.Logic.Relation
import Conform.Proofs.Drafts

/-!
The mode of an array under construction. It is settled bit by bit, and it does not matter which
positions of a tuple are given first.
-/

namespace Conform
open Outcome

namespace ArrayMode
variable {P : Type}

/-- One thing is settled about the elements that was not settled before. -/
inductive Step : ArrayMode P → ArrayMode P → Prop where
  | single (p : P) : Step .unset (.single p)
  | required {ps : List P} (h : ps ≠ []) : Step .unset (.tuple ps [])
  | optional {qs : List P} (h : qs ≠ []) : Step .unset (.tuple [] qs)
  | fillRequired {ps qs : List P} (h : ps ≠ []) : Step (.tuple [] qs) (.tuple ps qs)
  | fillOptional {ps qs : List P} (h : qs ≠ []) : Step (.tuple ps []) (.tuple ps qs)

/-- Any number of things are settled, one after the other. -/
abbrev Moves : ArrayMode P → ArrayMode P → Prop := Relation.ReflTransGen Step

/-- A tuple has positions. -/
def Filled : ArrayMode P → Prop
  | tuple required optional => required ≠ [] ∨ optional ≠ []
  | _ => True

variable {mode next : ArrayMode P} {p : P} {ps qs : List P}

theorem Moves.of_single (h : Moves (.single p) next) : next = .single p := by
  induction h with
  | refl => rfl
  | tail _ hstep ih =>
    subst ih
    cases hstep

/-- Positions that are there stay, and a tuple stays a tuple. -/
theorem Moves.of_tuple (h : Moves (.tuple ps qs) next) : ∃ ps' qs', next = .tuple ps' qs' ∧
    (ps ≠ [] → ps' = ps) ∧ (qs ≠ [] → qs' = qs) := by
  induction h with
  | refl => exact ⟨ps, qs, rfl, fun _ => rfl, fun _ => rfl⟩
  | tail _ hstep ih =>
    obtain ⟨ps', qs', rfl, hps, hqs⟩ := ih
    cases hstep with
    | fillRequired _ =>
      refine ⟨_, qs', rfl, ?_, hqs⟩
      intro hne
      exact (hne (hps hne).symm).elim
    | fillOptional _ =>
      refine ⟨ps', _, rfl, hps, ?_⟩
      intro hne
      exact (hne (hqs hne).symm).elim

theorem Step.filled (h : Step mode next) : next.Filled := by
  cases h with
  | single => trivial
  | required h | fillRequired h => exact .inl h
  | optional h | fillOptional h => exact .inr h

theorem Moves.filled (h : Moves mode next) (hm : mode.Filled) : next.Filled := by
  cases h with
  | refl => exact hm
  | tail _ hstep => exact hstep.filled

end ArrayMode

namespace ArrayBuilder
variable {mode next : ArrayMode Property} {ps qs : List Property} {p : Property}

theorem step_single (available : ensureSingleAvailable mode = .ok ()) :
    mode.Step (.single p) := by
  cases mode with
  | unset => exact .single p
  | single | tuple => cases available

theorem step_fillRequired (available : ensureTupleAvailable mode = .ok ()) (hne : ps ≠ [])
    (filled : fillRequired ps mode = .ok next) : mode.Step next := by
  cases mode with
  | unset =>
    cases filled
    exact .required hne
  | single => cases available
  | tuple required optional =>
    cases required with
    | nil =>
      cases filled
      exact .fillRequired hne
    | cons => cases filled

theorem step_fillOptional (available : ensureTupleAvailable mode = .ok ()) (hne : qs ≠ [])
    (filled : fillOptional qs mode = .ok next) : mode.Step next := by
  cases mode with
  | unset =>
    cases filled
    exact .optional hne
  | single => cases available
  | tuple required optional =>
    cases optional with
    | nil =>
      cases filled
      exact .fillOptional hne
    | cons => cases filled

end ArrayBuilder

namespace ArrayBuilder
open AttemptT
variable {ω : Type} {w v : ω} {block : TupleBuilder.Step (StateM ω)} {a : ArraySchema Property}
  {mode : ArrayMode Property} {ps qs : List Property}

/-- The mode after properties are given for some positions of a tuple. It is the old one if there
are none, or if these positions have properties. -/
def filledMode (filled : List Property → ArrayMode Property →
    Except SchemaError (ArrayMode Property)) (ps : List Property) (mode : ArrayMode Property) :
    ArrayMode Property :=
  if ps.isEmpty then mode else (filled ps mode).toOption.getD mode

theorem runFrom_collectTuple (available : ensureTupleAvailable a.mode = .ok ())
    (hb : block.runFrom [] w = ((.ok (), ps), v)) : (collectTuple block).runFrom a w =
      ((if ps.isEmpty then .error (.invalidArgument .emptyTuple) else .ok ps, a), v) := by
  have made : (TupleBuilder.made block).run w = (.ok ps, v) := by
    change ((block.runFrom [] w).1.1.map fun _ => (block.runFrom [] w).1.2,
      (block.runFrom [] w).2) = _
    rw [hb]
    rfl
  have checked : (checkMode (m := StateM ω) ensureTupleAvailable).runFrom a w =
      ((.ok (), a), w) := by
    rw [checkMode, runFrom_bind]
    simp [available]
  rw [collectTuple, runFrom_bind, checked]
  change (ofBlock (TupleBuilder.made block) >>= _).runFrom a w = _
  rw [runFrom_bind, runFrom_ofBlock, made]
  cases ps <;> rfl

theorem runFrom_fill (filled : ArrayMode Property → Except SchemaError (ArrayMode Property)) :
    (fill (m := StateM ω) filled).runFrom a w =
      (((filled a.mode).map fun _ => (),
        { a with mode := (filled a.mode).toOption.getD a.mode }), w) := by
  rw [fill, runFrom_bind, runFrom_get]
  change (AttemptT.ofExcept (filled a.mode) >>= setMode).runFrom a w = _
  rw [runFrom_bind, runFrom_ofExcept]
  cases filled a.mode <;> rfl

theorem runFrom_fillBy (filled : List Property → ArrayMode Property →
      Except SchemaError (ArrayMode Property)) (available : ensureTupleAvailable a.mode = .ok ())
    (hb : block.runFrom [] w = ((.ok (), ps), v)) : ∃ result,
      (do fill (filled (← collectTuple block))).runFrom a w =
        ((result, { a with mode := filledMode filled ps a.mode }), v) := by
  rw [runFrom_bind, runFrom_collectTuple available hb]
  cases ps with
  | nil => exact ⟨_, rfl⟩
  | cons p ps => exact ⟨_, runFrom_fill (filled (p :: ps))⟩

/-- One element for all and a tuple's positions exclude each other. -/
theorem runFrom_fillBy_single (filled : List Property → ArrayMode Property →
      Except SchemaError (ArrayMode Property)) (block : TupleBuilder.Step (StateM ω)) (w : ω)
    (single : ensureTupleAvailable a.mode ≠ .ok ()) :
    ∃ e, (do fill (filled (← collectTuple block))).runFrom a w = ((.error e, a), w) := by
  obtain ⟨mode, unique, minSize, maxSize, required, allowNil⟩ := a
  cases mode with
  | single p => exact ⟨_, rfl⟩
  | unset | tuple => exact (single rfl).elim

theorem filledMode_comm (available : ensureTupleAvailable mode = .ok ()) (ps qs : List Property) :
    filledMode fillOptional qs (filledMode fillRequired ps mode) =
      filledMode fillRequired ps (filledMode fillOptional qs mode) := by
  cases mode with
  | unset => cases ps <;> cases qs <;> rfl
  | single => cases available
  | tuple required optional =>
    cases ps <;> cases qs <;> cases required <;> cases optional <;> rfl

theorem filledMode_unset (hunset : mode = .unset) (hps : ps ≠ []) (hqs : qs ≠ []) :
    filledMode fillOptional qs (filledMode fillRequired ps mode) = .tuple ps qs := by
  subst hunset
  cases ps with
  | nil => exact (hps rfl).elim
  | cons p ps =>
    cases qs with
    | nil => exact (hqs rfl).elim
    | cons q qs => rfl

theorem available_filledMode (available : ensureTupleAvailable mode = .ok ()) :
    ensureTupleAvailable (filledMode fillRequired ps mode) = .ok () ∧
      ensureTupleAvailable (filledMode fillOptional ps mode) = .ok () := by
  cases mode with
  | unset => cases ps <;> exact ⟨rfl, rfl⟩
  | single => cases available
  | tuple required optional =>
    cases ps <;> cases required <;> cases optional <;> exact ⟨rfl, rfl⟩

theorem stateFrom_swallow_bind {σ : Type} (x y : AttemptT (StateM ω) σ Unit) (s : σ) (w : ω) :
    (do swallow x; swallow y).stateFrom s w = y.stateFrom (x.stateFrom s w) (x.runFrom s w).2 := by
  rw [stateFrom, runFrom_bind, runFrom_swallow]
  change ((swallow y).runFrom (x.stateFrom s w) (x.runFrom s w).2).1.2 = _
  rw [runFrom_swallow]

/-- Blocks that succeed with the same properties in either order settle the same mode; they fill an
array of which nothing is settled. -/
theorem items_optionalItems_comm {first later : TupleBuilder.Step (StateM ω)} {w₁ w₂ v₁ v₂ : ω}
    (hps : first.runFrom [] w = ((.ok (), ps), w₁)) (hqs : later.runFrom [] w₁ = ((.ok (), qs), w₂))
    (hqs' : later.runFrom [] w = ((.ok (), qs), v₁))
    (hps' : first.runFrom [] v₁ = ((.ok (), ps), v₂)) (a : ArraySchema Property) :
    let next := ((do swallow (items first); swallow (optionalItems later)).stateFrom a w).mode
    next = ((do swallow (optionalItems later); swallow (items first)).stateFrom a w).mode ∧
      (a.mode = .unset → ps ≠ [] → qs ≠ [] → next = .tuple ps qs) := by
  rw [stateFrom_swallow_bind, stateFrom_swallow_bind]
  -- A single element refuses both calls; without one, each call fills positions of its own.
  by_cases available : ensureTupleAvailable a.mode = .ok ()
  · obtain ⟨_, h₁⟩ := runFrom_fillBy fillRequired available hps
    obtain ⟨_, h₂⟩ := runFrom_fillBy fillOptional
      (a := { a with mode := filledMode fillRequired ps a.mode })
      (available_filledMode available).1 hqs
    obtain ⟨_, g₁⟩ := runFrom_fillBy fillOptional available hqs'
    obtain ⟨_, g₂⟩ := runFrom_fillBy fillRequired
      (a := { a with mode := filledMode fillOptional qs a.mode })
      (available_filledMode available).2 hps'
    simp only [items, optionalItems, stateFrom, h₁, h₂, g₁, g₂]
    exact ⟨filledMode_comm available ps qs, filledMode_unset⟩
  · obtain ⟨_, h₁⟩ := runFrom_fillBy_single fillRequired first w available
    obtain ⟨_, h₂⟩ := runFrom_fillBy_single fillOptional later w available
    simp only [items, optionalItems, stateFrom, h₁, h₂, true_and]
    intro hunset
    rw [hunset] at available
    exact (available rfl).elim

end ArrayBuilder

end Conform
