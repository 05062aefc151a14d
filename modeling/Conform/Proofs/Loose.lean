import Conform.Proofs.OptionOrder
import Conform.Proofs.Registrations

/-!
Faults without a place. Options, builders, validators and the builtin kinds fail with faults that
are not tied to a place of a definition.
-/

namespace Conform
open Outcome

/-- A fault is tied to a place of a definition. -/
def SchemaError.isAnchored : SchemaError → Bool
  | .invalidDefinition .. => true
  | _ => false

/-- If a computation fails, its fault is not tied to a place yet. -/
def Loose {α : Type} (x : Except SchemaError α) : Prop := ∀ e, x = .error e → e.isAnchored = false

section Loose
variable {α β ε : Type} {x : Except SchemaError α}

theorem loose_ok (a : α) : Loose (.ok a : Except SchemaError α) := by
  intro e h
  cases h

theorem loose_error {e : SchemaError} (he : e.isAnchored = false) :
    Loose (.error e : Except SchemaError α) := by
  intro _ h
  cases h
  exact he

theorem Loose.bind {f : α → Except SchemaError β} (hx : Loose x) (hf : ∀ a, Loose (f a)) :
    Loose (x >>= f) := by
  intro e h
  rcases bind_eq_error_iff.mp h with h | ⟨a, -, h⟩
  · exact hx e h
  · exact hf a e h

theorem Loose.map (hx : Loose x) (f : α → β) : Loose (x.map f) :=
  fun e h => hx e (map_eq_error_iff.mp h)

theorem loose_mapError {y : Except ε α} {g : ε → SchemaError}
    (hg : ∀ e, (g e).isAnchored = false) : Loose (y.mapError g) := by
  cases y with
  | ok a => exact loose_ok a
  | error e => exact loose_error (hg e)

theorem loose_foldlM {σ : Type} {step : σ → α → Except SchemaError σ} {xs : List α}
    (h : ∀ s a, Loose (step s a)) (s : σ) : Loose (xs.foldlM step s) := by
  induction xs generalizing s with
  | nil => exact loose_ok s
  | cons a xs ih =>
    rw [List.foldlM_cons]
    exact (h s a).bind ih

end Loose

/-- From whichever state a step starts, its fault is not tied to a place yet. -/
def LooseStep {σ α : Type} (x : AttemptT Id σ α) : Prop := ∀ s, Loose (x.outcome s).1

section Steps
variable {σ α β : Type}

theorem AttemptT.outcome_bind (x : AttemptT Id σ α) (f : α → AttemptT Id σ β) (s : σ) :
    (x >>= f).outcome s = match x.outcome s with
      | (.ok a, t) => (f a).outcome t
      | (.error e, t) => (.error e, t) := by
  unfold outcome
  rw [ExceptT.run_bind, StateT.run_bind]
  obtain ⟨result, t⟩ : Except SchemaError α × σ := StateT.run x.run s
  cases result <;> rfl

theorem looseStep_pure (a : α) : LooseStep (pure a : AttemptT Id σ α) := fun _ => loose_ok a

theorem looseStep_get : LooseStep (get : AttemptT Id σ σ) := fun s => loose_ok s

theorem looseStep_modify (f : σ → σ) : LooseStep (modify f : AttemptT Id σ PUnit) :=
  fun _ => loose_ok ()

theorem looseStep_throw {e : SchemaError} (he : e.isAnchored = false) :
    LooseStep (throw e : AttemptT Id σ α) := fun _ => loose_error he

theorem Loose.step {r : Except SchemaError α} (h : Loose r) :
    LooseStep (AttemptT.ofExcept r : AttemptT Id σ α) := fun _ => h

theorem Loose.block {r : Except SchemaError α} (h : Loose r) :
    LooseStep (AttemptT.ofBlock (m := Id) r : AttemptT Id σ α) := fun _ => h

theorem LooseStep.bind {x : AttemptT Id σ α} {f : α → AttemptT Id σ β} (hx : LooseStep x)
    (hf : ∀ a, LooseStep (f a)) : LooseStep (x >>= f) := by
  intro s
  have hfirst := hx s
  rw [AttemptT.outcome_bind]
  generalize x.outcome s = r at hfirst ⊢
  obtain ⟨result, t⟩ := r
  cases result with
  | ok a => exact hf a t
  | error e => exact loose_error (hfirst e rfl)

theorem looseStep_forM {step : α → AttemptT Id σ Unit} (h : ∀ a, LooseStep (step a))
    (xs : List α) : LooseStep (xs.forM step) := by
  induction xs with
  | nil => exact looseStep_pure ()
  | cons a xs ih => exact (h a).bind fun _ => ih

theorem looseStep_option {step : α → AttemptT Id σ Unit} (h : ∀ a, LooseStep (step a))
    (o : Option α) : LooseStep (o.forM step) := by
  cases o with
  | none => exact looseStep_pure ()
  | some a => exact h a

end Steps

namespace Options

theorem loose_insert (key : String) (value : Json) (o : Options) : Loose (o.insert key value) := by
  unfold insert
  dsimp only
  split
  · exact loose_error rfl
  · split
    · exact loose_error rfl
    · exact loose_ok _

theorem loose_insertAll (fields : List (String × Json)) (o : Options) :
    Loose (o.insertAll fields) := by
  refine loose_foldlM ?_ o
  rintro o ⟨key, value⟩
  exact loose_insert key value o

theorem looseStep_take (key : String) : LooseStep (take key) :=
  looseStep_get.bind fun _ => (looseStep_modify _).bind fun _ => looseStep_pure _

theorem looseStep_takeBool (key : String) (default : Bool) : LooseStep (takeBool key default) := by
  refine (looseStep_take key).bind fun found => ?_
  split
  · exact looseStep_pure _
  · exact looseStep_pure _
  · exact looseStep_throw rfl

theorem looseStep_takeSize (key : String) : LooseStep (takeSize key) := by
  refine (looseStep_take key).bind fun found => ?_
  split
  · exact looseStep_pure _
  · exact looseStep_pure _
  · split
    · exact looseStep_pure _
    · exact looseStep_throw rfl
  · exact looseStep_throw rfl

theorem loose_ensureConsumed (kind : String) (o : Options) : Loose (o.ensureConsumed kind) := by
  unfold ensureConsumed
  split
  · exact loose_ok _
  · exact loose_error rfl

theorem loose_consume {α : Type} {taking : Attempt Options α} (h : LooseStep taking)
    (kind : String) (o : Options) : Loose (o.consume taking kind) := by
  have htaken := h o
  unfold consume
  split
  · exact (loose_ensureConsumed _ _).map _
  · rename_i e rest heq
    rw [heq] at htaken
    exact loose_error (htaken e rfl)

end Options

open Options

theorem HashSchema.loose_ofOptions {P : Type} (o : Options) :
    Loose (HashSchema.ofOptions (P := P) o) :=
  loose_consume ((looseStep_takeBool _ _).bind fun _ => (looseStep_takeBool _ _).bind fun _ =>
    (looseStep_takeBool _ _).bind fun _ => looseStep_pure _) hashKind o

theorem ArraySchema.loose_ofOptions {P : Type} (o : Options) :
    Loose (ArraySchema.ofOptions (P := P) o) :=
  loose_consume ((looseStep_takeBool _ _).bind fun _ => (looseStep_takeBool _ _).bind fun _ =>
    (looseStep_takeBool _ _).bind fun _ => (looseStep_takeSize _).bind fun _ =>
      (looseStep_takeSize _).bind fun _ => looseStep_pure _) arrayKind o

theorem loose_outcome {σ α : Type} {x : AttemptT Id σ α} (h : LooseStep x) (s : σ) :
    Loose ((x.outcome s).1.map fun _ => (x.outcome s).2) := (h s).map _

theorem HashSchema.loose_defineWith {options : Options} {block : HashBuilder.Step Id}
    (h : LooseStep block) : Loose (Id.run (HashSchema.defineWith options block)) := by
  have hoptions := HashSchema.loose_ofOptions (P := Property) options
  unfold HashSchema.defineWith
  generalize HashSchema.ofOptions options = start at hoptions
  cases start with
  | error e => exact hoptions
  | ok start => exact loose_outcome h start

theorem ArraySchema.loose_defineWith {options : Options} {block : ArrayBuilder.Step Id}
    (h : LooseStep block) : Loose (Id.run (ArraySchema.defineWith options block)) := by
  have hoptions := ArraySchema.loose_ofOptions (P := Property) options
  unfold ArraySchema.defineWith
  generalize ArraySchema.ofOptions options = start at hoptions
  cases start with
  | error e => exact hoptions
  | ok start => exact loose_outcome h start

theorem HashBuilder.looseStep_insert (name : String) (p : Property) :
    LooseStep (insert (m := Id) name p) := by
  have havailable : ∀ h, Loose (ensureAvailable name h) := by
    intro h
    unfold ensureAvailable
    split
    · exact loose_error rfl
    · split
      · exact loose_error rfl
      · exact loose_ok _
  exact (looseStep_get.bind fun h => (havailable h).step).bind fun _ => looseStep_modify _

theorem TupleBuilder.looseStep_pushAll (ps : List Property) :
    LooseStep (ps.forM (push (m := Id))) :=
  looseStep_forM (fun _ => looseStep_modify _) ps

namespace ArrayBuilder

theorem loose_ensureSingleAvailable (mode : ArrayMode Property) :
    Loose (ensureSingleAvailable mode) := by
  cases mode with
  | unset => exact loose_ok _
  | single | tuple => exact loose_error rfl

theorem loose_ensureTupleAvailable (mode : ArrayMode Property) :
    Loose (ensureTupleAvailable mode) := by
  cases mode with
  | unset | tuple => exact loose_ok _
  | single => exact loose_error rfl

theorem looseStep_checkMode {ensure : ArrayMode Property → Except SchemaError Unit}
    (h : ∀ mode, Loose (ensure mode)) : LooseStep (checkMode (m := Id) ensure) := by
  refine LooseStep.bind looseStep_get fun a => ?_
  exact (h a.mode).step

theorem looseStep_set (p : Property) : LooseStep (set (m := Id) p) :=
  (looseStep_checkMode loose_ensureSingleAvailable).bind fun _ => looseStep_modify _

theorem looseStep_fill {filled : ArrayMode Property → Except SchemaError (ArrayMode Property)}
    (h : ∀ mode, Loose (filled mode)) : LooseStep (fill (m := Id) filled) := by
  refine LooseStep.bind looseStep_get fun a => LooseStep.bind ?_ fun _ => looseStep_modify _
  exact (h a.mode).step

theorem looseStep_collectTuple {block : TupleBuilder.Step Id} (h : LooseStep block) :
    LooseStep (collectTuple block) := by
  refine (looseStep_checkMode loose_ensureTupleAvailable).bind fun _ => ?_
  refine LooseStep.bind (loose_outcome h []).block fun ps => ?_
  split
  · exact LooseStep.bind (looseStep_throw rfl) fun _ => looseStep_pure _
  · exact looseStep_pure _

theorem looseStep_fillBy {block : TupleBuilder.Step Id} (h : LooseStep block)
    {filled : List Property → ArrayMode Property → Except SchemaError (ArrayMode Property)}
    (hf : ∀ ps mode, Loose (filled ps mode)) : LooseStep (fillBy filled block) :=
  (looseStep_collectTuple h).bind fun ps => looseStep_fill (hf ps)

theorem loose_fillRequired (ps : List Property) (mode : ArrayMode Property) :
    Loose (fillRequired ps mode) := by
  unfold fillRequired
  split
  · exact loose_ok _
  · exact loose_error rfl
  · exact loose_ok _

theorem loose_fillOptional (ps : List Property) (mode : ArrayMode Property) :
    Loose (fillOptional ps mode) := by
  unfold fillOptional
  split
  · exact loose_ok _
  · exact loose_error rfl
  · exact loose_ok _

end ArrayBuilder

namespace Validator
variable (name : String) (config : Json)

theorem loose_required : Loose (required name config) := by
  unfold required
  split
  · exact loose_error rfl
  · exact loose_ok _

theorem loose_numberFor : Loose (numberFor name config) := by
  refine (loose_required name config).bind fun v => ?_
  split
  · exact loose_ok _
  · exact loose_error rfl

theorem loose_divisorFor : Loose (divisorFor name config) := by
  refine (loose_numberFor name config).bind fun n => ?_
  split
  · exact loose_error rfl
  · exact loose_ok _

theorem loose_itemsOf : Loose (itemsOf config) := by
  unfold itemsOf
  split
  · exact loose_ok _
  · exact loose_error rfl

theorem loose_toggleFor : Loose (toggleFor name config) := by
  refine (loose_required name config).bind fun v => ?_
  split
  · exact loose_ok _
  · exact loose_error rfl

theorem loose_patternOf : Loose (patternOf config) := by
  unfold patternOf
  split
  · exact loose_mapError fun _ => rfl
  · exact loose_error rfl

theorem loose_build : Loose (build name config) := by
  unfold build
  split
  case h_1 | h_2 => exact (loose_required _ _).map _
  case h_3 | h_4 | h_5 | h_6 => exact (loose_numberFor _ _).map _
  case h_7 | h_8 => exact (loose_divisorFor _ _).map _
  case h_9 | h_10 => exact (loose_itemsOf _).map _
  case h_11 => exact (loose_patternOf _).map _
  case h_12 | h_13 => exact (loose_toggleFor _ _).map _
  case h_14 => exact loose_error rfl

theorem loose_table : Loose (Registry.builtin.validators.build name config) := by
  unfold ValidatorTable.build
  split
  · rename_i factory hf
    obtain ⟨-, rfl⟩ := Registry.validator_of_lookup hf
    exact loose_build _ _
  · exact loose_error rfl

end Validator

namespace Leaf

theorem loose_addOptions (entries : List (String × Json)) (l : Leaf) :
    Loose (l.addOptions Registry.builtin.validators entries) := by
  induction entries generalizing l with
  | nil => exact loose_ok l
  | cons entry entries ih =>
    obtain ⟨name, config⟩ := entry
    refine (Validator.loose_table name config).bind fun w => ?_
    have hadded : Loose (l.addValidator w) := by
      unfold addValidator
      split
      · exact loose_error rfl
      · exact loose_ok _
    exact hadded.bind ih

theorem loose_ofOptions (kind : String) (test : TypeTest) (o : Options) :
    Loose (ofOptions kind test o Registry.builtin.validators) := by
  have htaking : LooseStep (taking kind test) :=
    (looseStep_takeBool _ _).bind fun _ => (looseStep_takeBool _ _).bind fun _ => looseStep_pure _
  have htaken := htaking o
  unfold taking at htaken
  unfold ofOptions
  dsimp only
  split
  · exact loose_addOptions _ _
  · rename_i e rest heq
    rw [heq] at htaken
    exact loose_error (htaken e rfl)

end Leaf

namespace Registry

theorem loose_resolve (name : String) (r : Registry) : Loose (r.resolve name) := by
  intro e h
  rw [resolve_error h]
  rfl

/-- The builtin kinds leave it to definitions to say where something went wrong. -/
theorem loose_buildProperty (kind : String) (options : Options) :
    Loose (builtin.buildProperty kind options) := by
  refine (loose_resolve kind builtin).bind fun name => ?_
  split
  · rename_i factory hf
    cases factory_of_lookup hf with
    | leaf _ => exact (Leaf.loose_ofOptions _ _ _).bind fun _ => loose_ok _
    | array => exact (ArraySchema.loose_ofOptions _).map _
    | hash => exact (HashSchema.loose_ofOptions _).map _
  · exact loose_error rfl

end Registry

end Conform
