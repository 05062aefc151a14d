import Conform.Builder.Array
import Conform.Proofs.Outcome

/-!
What the steps of a builder leave behind when they succeed.
-/

namespace Conform
open Outcome

namespace AttemptT
variable {σ α β : Type}

/-- The result of a step and the state after it, if the step succeeds. -/
def after? (x : AttemptT Id σ α) (s : σ) : Option (α × σ) :=
  match x.outcome s with
  | (.ok a, t) => some (a, t)
  | (.error _, _) => none

@[simp]
theorem after?_pure (a : α) (s : σ) : (pure a : AttemptT Id σ α).after? s = some (a, s) := rfl

@[simp]
theorem after?_throw (e : SchemaError) (s : σ) : (throw e : AttemptT Id σ α).after? s = none := rfl

@[simp]
theorem after?_get (s : σ) : (get : AttemptT Id σ σ).after? s = some (s, s) := rfl

@[simp]
theorem after?_modify (f : σ → σ) (s : σ) :
    (modify f : AttemptT Id σ PUnit).after? s = some ((), f s) := rfl

@[simp]
theorem after?_bind (x : AttemptT Id σ α) (f : α → AttemptT Id σ β) (s : σ) :
    (x >>= f).after? s = (x.after? s).bind fun r => (f r.1).after? r.2 := by
  unfold after? outcome
  rw [ExceptT.run_bind, StateT.run_bind]
  obtain ⟨result, t⟩ : Except SchemaError α × σ := StateT.run x.run s
  cases result <;> rfl

@[simp]
theorem after?_ofExcept (r : Except SchemaError α) (s : σ) :
    (ofExcept r : AttemptT Id σ α).after? s = r.toOption.map fun a => (a, s) := by
  cases r <;> rfl

@[simp]
theorem after?_ofBlock (r : Except SchemaError α) (s : σ) :
    (ofBlock (m := Id) r : AttemptT Id σ α).after? s = r.toOption.map fun a => (a, s) := by
  cases r <;> rfl

theorem after?_of_outcome {x : AttemptT Id σ α} {s t : σ} {a : α}
    (h : x.outcome s = (.ok a, t)) : x.after? s = some (a, t) := by
  unfold after?
  rw [h]

/-- The state in which a block leaves a container that it succeeds on. -/
theorem toOption_outcome (x : AttemptT Id σ α) (s : σ) :
    ((x.outcome s).1.map fun _ => (x.outcome s).2).toOption = (x.after? s).map (·.2) := by
  unfold after?
  generalize x.outcome s = r
  obtain ⟨result, t⟩ := r
  cases result <;> rfl

end AttemptT

theorem Options.consume_eq_ok {α : Type} {taking : Attempt Options α} {kind : String}
    {o : Options} {a : α} (h : o.consume taking kind = .ok a) :
    ∃ rest, taking.after? o = some (a, rest) := by
  unfold Options.consume at h
  split at h
  · rename_i b rest houtcome
    obtain ⟨_, _, rfl⟩ := map_eq_ok_iff.mp h
    exact ⟨rest, AttemptT.after?_of_outcome houtcome⟩
  · cases h

namespace HashSchema

theorem defineWith_toOption (options : Options) (block : HashBuilder.Step Id) :
    (Id.run (defineWith options block)).toOption =
      (ofOptions options).toOption.bind fun start => (block.after? start).map (·.2) := by
  unfold defineWith
  cases ofOptions options with
  | error e => rfl
  | ok start => exact AttemptT.toOption_outcome block start

theorem properties_of_ofOptions {P : Type} {options : Options} {start : HashSchema P}
    (h : ofOptions options = .ok start) : start.properties = [] := by
  obtain ⟨rest, hr⟩ := Options.consume_eq_ok h
  simp only [AttemptT.after?_bind, AttemptT.after?_pure, Option.bind_eq_some_iff] at hr
  obtain ⟨_, _, _, _, _, _, heq⟩ := hr
  cases heq
  rfl

end HashSchema

namespace ArraySchema

theorem defineWith_toOption (options : Options) (block : ArrayBuilder.Step Id) :
    (Id.run (defineWith options block)).toOption =
      (ofOptions options).toOption.bind fun start => (block.after? start).map (·.2) := by
  unfold defineWith
  cases ofOptions options with
  | error e => rfl
  | ok start => exact AttemptT.toOption_outcome block start

theorem mode_of_ofOptions {P : Type} {options : Options} {start : ArraySchema P}
    (h : ofOptions options = .ok start) : start.mode = .unset := by
  obtain ⟨rest, hr⟩ := Options.consume_eq_ok h
  simp only [AttemptT.after?_bind, AttemptT.after?_pure, Option.bind_eq_some_iff] at hr
  obtain ⟨_, _, _, _, _, _, _, _, _, _, heq⟩ := hr
  cases heq
  rfl

end ArraySchema

namespace HashBuilder

theorem insert_after? (name : String) (p : Property) (h : HashSchema Property) :
    (insert (m := Id) name p).after? h =
      (ensureAvailable name h).toOption.map fun _ =>
        ((), { h with properties := h.properties ++ [(name, p)] }) := by
  simp [checkName, insert, push]
  cases ensureAvailable name h <;> rfl

end HashBuilder

namespace TupleBuilder

theorem pushAll_after? (ps qs : List Property) :
    (ps.forM (push (m := Id))).after? qs = some ((), qs ++ ps) := by
  induction ps generalizing qs with
  | nil => simp
  | cons p ps ih =>
    rw [List.forM_eq_forM] at ih ⊢
    simp [push, ih]

end TupleBuilder

namespace ArrayBuilder
variable {block : TupleBuilder.Step Id} {a : ArraySchema Property}

/-- Fills the positions that a block defines. -/
def fillBy (filled : List Property → ArrayMode Property → Except SchemaError (ArrayMode Property))
    (block : TupleBuilder.Step Id) : Step Id := do
  fill (filled (← collectTuple block))

theorem set_after? (p : Property) (a : ArraySchema Property) :
    (set (m := Id) p).after? a =
      (ensureSingleAvailable a.mode).toOption.map fun _ => ((), { a with mode := .single p }) := by
  simp [set, checkMode, setMode]
  cases ensureSingleAvailable a.mode <;> rfl

theorem fill_after? (filled : ArrayMode Property → Except SchemaError (ArrayMode Property))
    (a : ArraySchema Property) :
    (fill (m := Id) filled).after? a =
      (filled a.mode).toOption.map fun mode => ((), { a with mode := mode }) := by
  simp [fill, setMode]
  cases filled a.mode <;> rfl

theorem ofBlock_tuple_after? {σ : Type} (s : σ) :
    AttemptT.after? (AttemptT.ofBlock (m := Id) do
      let (result, properties) ← block.outcome []
      return result.map fun _ => properties) s = (block.after? []).map fun r => (r.2, s) := by
  rw [AttemptT.after?_ofBlock]
  calc
    _ = ((block.after? []).map (·.2)).map fun ps => (ps, s) :=
      congrArg (Option.map fun ps => (ps, s)) (AttemptT.toOption_outcome block [])
    _ = (block.after? []).map fun r => (r.2, s) := Option.map_map ..

theorem collectTuple_after? : (collectTuple block).after? a =
    (ensureTupleAvailable a.mode).toOption.bind fun _ =>
      (block.after? []).bind fun r => if r.2.isEmpty then none else some (r.2, a) := by
  simp only [collectTuple, checkMode, AttemptT.after?_bind, AttemptT.after?_get,
    AttemptT.after?_ofExcept, Option.bind_some, ofBlock_tuple_after?]
  cases ensureTupleAvailable a.mode with
  | error e => rfl
  | ok _ =>
    cases block.after? [] with
    | none => rfl
    | some r =>
      simp
      split <;> simp

theorem fillBy_after? (filled : List Property → ArrayMode Property →
      Except SchemaError (ArrayMode Property)) :
    (fillBy filled block).after? a =
      (ensureTupleAvailable a.mode).toOption.bind fun _ => (block.after? []).bind fun r =>
        if r.2.isEmpty then none
        else (filled r.2 a.mode).toOption.map fun mode => ((), { a with mode := mode }) := by
  simp only [fillBy, AttemptT.after?_bind, collectTuple_after?]
  cases ensureTupleAvailable a.mode with
  | error e => rfl
  | ok _ =>
    cases block.after? [] with
    | none => rfl
    | some r =>
      simp only [toOption_ok, Option.bind_some]
      split
      · rfl
      · exact fill_after? _ a

end ArrayBuilder

end Conform
