import Conform.Builder.Array
import Conform.Proofs.Outcome

/-!
Calls on what is under construction. A block is free in what it does between its calls, and it may
read and change its surroundings; what it builds changes by these calls only.
-/

namespace Conform
open Outcome

namespace AttemptT
variable {ω σ α β : Type}

/-- A run of a step from a state and in surroundings that it may read and change: its result, and
the state and the surroundings after it. -/
def runFrom (x : AttemptT (StateM ω) σ α) (s : σ) (w : ω) : (Except SchemaError α × σ) × ω :=
  (x.outcome s).run w

/-- The state after a run. -/
def stateFrom (x : AttemptT (StateM ω) σ α) (s : σ) (w : ω) : σ := (x.runFrom s w).1.2

@[simp]
theorem runFrom_get (s : σ) (w : ω) :
    (get : AttemptT (StateM ω) σ σ).runFrom s w = ((.ok s, s), w) := rfl

@[simp]
theorem runFrom_ofExcept (r : Except SchemaError α) (s : σ) (w : ω) :
    (ofExcept r : AttemptT (StateM ω) σ α).runFrom s w = ((r, s), w) := rfl

@[simp]
theorem runFrom_ofBlock (y : StateM ω (Except SchemaError α)) (s : σ) (w : ω) :
    (ofBlock y : AttemptT (StateM ω) σ α).runFrom s w = (((y.run w).1, s), (y.run w).2) := rfl

theorem runFrom_bind (x : AttemptT (StateM ω) σ α) (f : α → AttemptT (StateM ω) σ β) (s : σ)
    (w : ω) : (x >>= f).runFrom s w =
      match x.runFrom s w with
      | ((.ok a, t), v) => (f a).runFrom t v
      | ((.error e, t), v) => ((.error e, t), v) := by
  change StateT.run (StateT.run (ExceptT.run (x >>= f)) s) w = _
  rw [ExceptT.run_bind, StateT.run_bind, StateT.run_bind]
  unfold runFrom outcome
  obtain ⟨⟨result, t⟩, v⟩ := StateT.run (StateT.run x.run s) w
  cases result <;> rfl

theorem runFrom_tryCatch (x : AttemptT (StateM ω) σ α) (f : SchemaError → AttemptT (StateM ω) σ α)
    (s : σ) (w : ω) : (tryCatch x f).runFrom s w =
      match x.runFrom s w with
      | ((.ok a, t), v) => ((.ok a, t), v)
      | ((.error e, t), v) => (f e).runFrom t v := by
  change StateT.run (StateT.run (ExceptT.run (tryCatch x f)) s) w = _
  rw [ExceptT.run_tryCatch, StateT.run_bind, StateT.run_bind]
  unfold runFrom outcome
  obtain ⟨⟨result, t⟩, v⟩ := StateT.run (StateT.run x.run s) w
  cases result <;> rfl

theorem runFrom_observing (x : AttemptT (StateM ω) σ α) (s : σ) (w : ω) :
    (observing x).runFrom s w =
      ((.ok (x.runFrom s w).1.1, x.stateFrom s w), (x.runFrom s w).2) := by
  unfold observing stateFrom
  rw [runFrom_tryCatch, runFrom_bind]
  obtain ⟨⟨result, t⟩, v⟩ := x.runFrom s w
  cases result <;> rfl

/-- Runs a step and goes on whatever comes of it. -/
def swallow (x : AttemptT (StateM ω) σ α) : AttemptT (StateM ω) σ Unit := do
  let _ ← observing x

theorem runFrom_swallow (x : AttemptT (StateM ω) σ α) (s : σ) (w : ω) :
    (swallow x).runFrom s w = ((.ok (), x.stateFrom s w), (x.runFrom s w).2) := by
  rw [swallow, runFrom_bind, runFrom_observing]
  rfl

/-- A run that fails leaves the state as it was; one that succeeds leaves what is said. -/
def Leaves (x : AttemptT (StateM ω) σ α) (s : σ) (w : ω) (P : α → σ → ω → Prop) : Prop :=
  (∃ e v, x.runFrom s w = ((.error e, s), v)) ∨
    ∃ a t v, x.runFrom s w = ((.ok a, t), v) ∧ P a t v

section Leaves
variable {x : AttemptT (StateM ω) σ α} {f : α → AttemptT (StateM ω) σ β} {s t : σ} {w v : ω}
  {P Q : α → σ → ω → Prop}

theorem Leaves.imp (h : Leaves x s w P) (weaker : ∀ a t v, P a t v → Q a t v) : Leaves x s w Q := by
  rcases h with h | ⟨a, t, v, hrun, hp⟩
  · exact .inl h
  · exact .inr ⟨a, t, v, hrun, weaker a t v hp⟩

/-- The first part leaves the state alone, so the whole fails as its second part does. -/
theorem Leaves.bind {Q : α → ω → Prop} {R : β → σ → ω → Prop}
    (h : Leaves x s w fun a t v => t = s ∧ Q a v)
    (step : ∀ a v, Q a v → Leaves (f a) s v R) : Leaves (x >>= f) s w R := by
  rcases h with ⟨e, v, hrun⟩ | ⟨a, t, v, hrun, rfl, hq⟩
  · refine .inl ⟨e, v, ?_⟩
    rw [runFrom_bind, hrun]
  · have heq : (x >>= f).runFrom t w = (f a).runFrom t v := by rw [runFrom_bind, hrun]
    unfold Leaves
    rw [heq]
    exact step a v hq

theorem leaves_pure (a : α) : Leaves (pure a) s w fun b t v => t = s ∧ b = a ∧ v = w :=
  .inr ⟨a, s, w, rfl, rfl, rfl, rfl⟩

theorem leaves_throw (e : SchemaError) : Leaves (throw e) s w P := .inl ⟨e, w, rfl⟩

theorem leaves_get :
    Leaves (get : AttemptT (StateM ω) σ σ) s w fun a t v => t = s ∧ a = s ∧ v = w :=
  .inr ⟨s, s, w, rfl, rfl, rfl, rfl⟩

theorem leaves_modify (f : σ → σ) :
    Leaves (modify f : AttemptT (StateM ω) σ PUnit) s w fun _ t _ => t = f s :=
  .inr ⟨(), f s, w, rfl, rfl⟩

theorem leaves_set (t : σ) :
    Leaves (set t : AttemptT (StateM ω) σ PUnit) s w fun _ u _ => u = t :=
  .inr ⟨(), t, w, rfl, rfl⟩

theorem leaves_ofExcept (result : Except SchemaError α) :
    Leaves (ofExcept result) s w fun a t v => t = s ∧ result = .ok a ∧ v = w := by
  cases result with
  | error e => exact .inl ⟨e, w, rfl⟩
  | ok a => exact .inr ⟨a, s, w, rfl, rfl, rfl, rfl⟩

theorem leaves_ofBlock (y : StateM ω (Except SchemaError α)) :
    Leaves (ofBlock y) s w fun a t _ => t = s ∧ (y.run w).1 = .ok a := by
  cases hy : (y.run w).1 with
  | error e => exact .inl ⟨e, _, by rw [runFrom_ofBlock, hy]⟩
  | ok a => exact .inr ⟨a, s, _, by rw [runFrom_ofBlock, hy], rfl, rfl⟩

end Leaves

end AttemptT

/-- Attaches a validator to a leaf under construction. -/
def Leaf.attach {m : Type → Type} [Monad m] (v : Validator) : AttemptT m Leaf Unit := do
  set (← AttemptT.ofExcept ((← get).addValidator v))

/-- What may be under construction. -/
inductive Draft where
  | hash
  | array
  | tuple
  | leaf

/-- What the calls on a draft work on. -/
abbrev Draft.State : Draft → Type
  | hash => HashSchema Property
  | array => ArraySchema Property
  | tuple => List Property
  | leaf => Leaf

/-- What a call adds: a finished property, one of a registered kind, or a container that a block
builds on the spot. -/
inductive Part (m : Type → Type) where
  | finished (p : Property)
  | ofKind (kind : String) (options : Options)
  | hash (options : Options) (block : HashBuilder.Step m)
  | array (options : Options) (block : ArrayBuilder.Step m)

namespace Draft

/-- The calls on each draft. -/
inductive Call (m : Type → Type) : Draft → Type where
  | property (name : String) (part : Part m) : Call m hash
  | relaxed : Call m hash
  | strict : Call m hash
  | element (part : Part m) : Call m array
  | items (block : TupleBuilder.Step m) : Call m array
  | optionalItems (block : TupleBuilder.Step m) : Call m array
  | position (part : Part m) : Call m tuple
  | validator (v : Validator) : Call m leaf

namespace Call
variable {m : Type → Type} [Monad m]

def run (r : Registry) : {d : Draft} → Call m d → AttemptT m d.State Unit
  | _, property name (.finished p) => HashBuilder.insert name p
  | _, property name (.ofKind kind options) => HashBuilder.addProperty r kind name options
  | _, property name (.hash options block) => HashBuilder.nestedHash name options block
  | _, property name (.array options block) => HashBuilder.array name options block
  | _, relaxed => HashBuilder.relaxed
  | _, strict => HashBuilder.strict
  | _, element (.finished p) => ArrayBuilder.set p
  | _, element (.ofKind kind options) => ArrayBuilder.addProperty r kind options
  | _, element (.hash options block) => ArrayBuilder.nestedHash options block
  | _, element (.array options block) => ArrayBuilder.array options block
  | _, items block => ArrayBuilder.items block
  | _, optionalItems block => ArrayBuilder.optionalItems block
  | _, position (.finished p) => TupleBuilder.push p
  | _, position (.ofKind kind options) => TupleBuilder.addProperty r kind options
  | _, position (.hash options block) => TupleBuilder.nestedHash options block
  | _, position (.array options block) => TupleBuilder.array options block
  | _, validator v => Leaf.attach v

end Call

end Draft

variable {ω : Type} {r : Registry} {w v : ω}

/-- The property that a part comes to, and the surroundings that its block leaves. -/
def Part.made (r : Registry) : Part (StateM ω) → StateM ω (Except SchemaError Property)
  | finished p => pure (.ok p)
  | ofKind kind options => pure (r.buildProperty kind options)
  | hash options block => return (← HashSchema.defineWith options block).map .hash
  | array options block => return (← ArraySchema.defineWith options block).map .array

/-- The properties of a tuple's block, and the surroundings that it leaves. -/
def TupleBuilder.made (block : TupleBuilder.Step (StateM ω)) :
    StateM ω (Except SchemaError (List Property)) := do
  let (result, properties) ← block.outcome []
  return result.map fun _ => properties

namespace Draft

/-- What a call makes of a draft when it succeeds in certain surroundings. -/
inductive Change (r : Registry) (w : ω) :
    {d : Draft} → Call (StateM ω) d → d.State → d.State → Prop where
  | property {name : String} {part : Part (StateM ω)} {h : HashSchema Property} {p : Property}
    (available : HashBuilder.ensureAvailable name h = .ok ())
    (made : ((part.made r).run w).1 = .ok p) :
    Change r w (.property name part) h { h with properties := h.properties ++ [(name, p)] }
  | relaxed {h : HashSchema Property} : Change r w .relaxed h { h with strict := false }
  | strict {h : HashSchema Property} : Change r w .strict h { h with strict := true }
  | element {part : Part (StateM ω)} {a : ArraySchema Property} {p : Property}
    (available : ArrayBuilder.ensureSingleAvailable a.mode = .ok ())
    (made : ((part.made r).run w).1 = .ok p) :
    Change r w (.element part) a { a with mode := .single p }
  | items {block : TupleBuilder.Step (StateM ω)} {a : ArraySchema Property} {ps : List Property}
    {mode : ArrayMode Property} (available : ArrayBuilder.ensureTupleAvailable a.mode = .ok ())
    (made : ((TupleBuilder.made block).run w).1 = .ok ps) (nonempty : ps ≠ [])
    (filled : ArrayBuilder.fillRequired ps a.mode = .ok mode) :
    Change r w (.items block) a { a with mode := mode }
  | optionalItems {block : TupleBuilder.Step (StateM ω)} {a : ArraySchema Property}
    {ps : List Property} {mode : ArrayMode Property}
    (available : ArrayBuilder.ensureTupleAvailable a.mode = .ok ())
    (made : ((TupleBuilder.made block).run w).1 = .ok ps) (nonempty : ps ≠ [])
    (filled : ArrayBuilder.fillOptional ps a.mode = .ok mode) :
    Change r w (.optionalItems block) a { a with mode := mode }
  | position {part : Part (StateM ω)} {ps : List Property} {p : Property}
    (made : ((part.made r).run w).1 = .ok p) : Change r w (.position part) ps (ps ++ [p])
  | validator {v : Validator} {l k : Leaf} (new : l.addValidator v = .ok k) :
    Change r w (.validator v) l k

namespace Call
open AttemptT

theorem ofBlock_map {σ α β γ : Type} (y : StateM ω (Except SchemaError α)) (f : α → β)
    (g : β → AttemptT (StateM ω) σ γ) :
    (do g (f (← ofBlock y))) = (do g (← ofBlock (return (← y).map f))) := by
  funext s w
  change runFrom _ s w = runFrom _ s w
  rw [runFrom_bind, runFrom_bind, runFrom_ofBlock, runFrom_ofBlock]
  have hmap : (do return (← y).map f : StateM ω (Except SchemaError β)).run w =
      ((y.run w).1.map f, (y.run w).2) := rfl
  rw [hmap]
  cases (y.run w).1 <;> rfl

theorem run_property (name : String) (part : Part (StateM ω)) :
    (property name part).run r = (do
      HashBuilder.checkName name
      HashBuilder.push name (← ofBlock (part.made r))) := by
  cases part with
  | finished p => rfl
  | ofKind kind options => rfl
  -- The steps wrap a container when they push it, the part wraps it as soon as it is built.
  | hash options block =>
    exact congrArg (HashBuilder.checkName name >>= ·) (funext fun _ => ofBlock_map _ _ _)
  | array options block =>
    exact congrArg (HashBuilder.checkName name >>= ·) (funext fun _ => ofBlock_map _ _ _)

theorem run_element (part : Part (StateM ω)) :
    (element part).run r = (do
      ArrayBuilder.checkMode ArrayBuilder.ensureSingleAvailable
      ArrayBuilder.setMode (.single (← ofBlock (part.made r)))) := by
  cases part with
  | finished p => rfl
  | ofKind kind options => rfl
  | hash options block =>
    exact congrArg (ArrayBuilder.checkMode ArrayBuilder.ensureSingleAvailable >>= ·)
      (funext fun _ => ofBlock_map _ Property.hash fun p => ArrayBuilder.setMode (.single p))
  | array options block =>
    exact congrArg (ArrayBuilder.checkMode ArrayBuilder.ensureSingleAvailable >>= ·)
      (funext fun _ => ofBlock_map _ Property.array fun p => ArrayBuilder.setMode (.single p))

theorem run_position (part : Part (StateM ω)) :
    (position part).run r = (do TupleBuilder.push (← ofBlock (part.made r))) := by
  cases part with
  | finished p => rfl
  | ofKind kind options => rfl
  | hash options block => exact ofBlock_map _ _ _
  | array options block => exact ofBlock_map _ _ _

section Spec
variable {σ α : Type} {s : σ} {a : ArraySchema Property}

theorem leaves_checkName (name : String) (h : HashSchema Property) :
    Leaves (HashBuilder.checkName name) h w fun _ t v =>
      t = h ∧ HashBuilder.ensureAvailable name h = .ok () ∧ v = w := by
  refine leaves_get.bind ?_
  rintro _ _ ⟨rfl, rfl⟩
  exact leaves_ofExcept _

theorem leaves_checkMode (ensure : ArrayMode Property → Except SchemaError Unit) :
    Leaves (ArrayBuilder.checkMode ensure) a w fun _ t v =>
      t = a ∧ ensure a.mode = .ok () ∧ v = w := by
  refine leaves_get.bind ?_
  rintro _ _ ⟨rfl, rfl⟩
  exact leaves_ofExcept _

theorem leaves_fill (filled : ArrayMode Property → Except SchemaError (ArrayMode Property)) :
    Leaves (ArrayBuilder.fill filled) a w fun _ t _ =>
      ∃ mode, filled a.mode = .ok mode ∧ t = { a with mode := mode } := by
  refine leaves_get.bind ?_
  rintro _ _ ⟨rfl, rfl⟩
  refine (leaves_ofExcept _).bind ?_
  rintro mode _ ⟨hmode, rfl⟩
  refine (leaves_modify _).imp ?_
  rintro _ t _ rfl
  exact ⟨mode, hmode, rfl⟩

theorem leaves_collectTuple (block : TupleBuilder.Step (StateM ω)) :
    Leaves (ArrayBuilder.collectTuple block) a w fun ps t _ => t = a ∧
      ArrayBuilder.ensureTupleAvailable a.mode = .ok () ∧
        ((TupleBuilder.made block).run w).1 = .ok ps ∧ ps ≠ [] := by
  refine (leaves_checkMode _).bind ?_
  rintro _ _ ⟨available, rfl⟩
  refine (leaves_ofBlock (TupleBuilder.made block)).bind ?_
  intro ps v made
  cases ps with
  | nil => exact leaves_throw _
  | cons p ps =>
    refine (leaves_pure _).imp ?_
    rintro _ _ _ ⟨rfl, rfl, rfl⟩
    exact ⟨rfl, available, made, by simp⟩

/-- A call that fails leaves the draft as it was, and one that succeeds makes its change. -/
theorem leaves_run {d : Draft} (c : Call (StateM ω) d) (s : d.State) :
    Leaves (c.run r) s w fun _ t _ => Change r w c s t := by
  cases c with
  | property name part =>
    rw [run_property]
    refine (leaves_checkName name s).bind ?_
    rintro _ _ ⟨available, rfl⟩
    refine (leaves_ofBlock _).bind ?_
    intro p v made
    refine (leaves_modify _).imp ?_
    rintro _ t _ rfl
    exact .property available made
  | relaxed => exact (leaves_modify _).imp fun _ _ _ h => h ▸ .relaxed
  | strict => exact (leaves_modify _).imp fun _ _ _ h => h ▸ .strict
  | element part =>
    rw [run_element]
    refine (leaves_checkMode _).bind ?_
    rintro _ _ ⟨available, rfl⟩
    refine (leaves_ofBlock _).bind ?_
    intro p v made
    refine (leaves_modify _).imp ?_
    rintro _ t _ rfl
    exact .element available made
  | items block =>
    refine (leaves_collectTuple block).bind ?_
    rintro ps v ⟨available, made, nonempty⟩
    refine (leaves_fill _).imp ?_
    rintro _ t _ ⟨mode, filled, rfl⟩
    exact .items available made nonempty filled
  | optionalItems block =>
    refine (leaves_collectTuple block).bind ?_
    rintro ps v ⟨available, made, nonempty⟩
    refine (leaves_fill _).imp ?_
    rintro _ t _ ⟨mode, filled, rfl⟩
    exact .optionalItems available made nonempty filled
  | position part =>
    rw [run_position]
    refine (leaves_ofBlock _).bind ?_
    intro p v made
    refine (leaves_modify _).imp ?_
    rintro _ t _ rfl
    exact .position made
  | validator v =>
    refine leaves_get.bind ?_
    rintro _ _ ⟨rfl, rfl⟩
    refine (leaves_ofExcept _).bind ?_
    rintro k _ ⟨new, rfl⟩
    refine (leaves_set _).imp ?_
    rintro _ t _ rfl
    exact .validator new

end Spec

section Failing
variable {d : Draft} {c : Call (StateM ω) d} {s t : d.State} {e : SchemaError}

/-- A call that fails leaves no trace, whatever it failed for. What a block does next, it does with
the draft that the call was made on; and unless the rest heeds what the call has done to the
surroundings, all ends as if the call had never been made. -/
theorem failed_call_leaves_no_trace (failed : (c.run r).runFrom s w = ((.error e, t), v)) :
    t = s ∧
      (∀ {α : Type} (rest : Except SchemaError Unit → AttemptT (StateM ω) d.State α),
        (do rest (← observing (c.run r))).runFrom s w = (rest (.error e)).runFrom s v) ∧
      ∀ {α : Type} {start : d.State} {u : ω} (before : AttemptT (StateM ω) d.State Unit)
        (rest : AttemptT (StateM ω) d.State α), before.runFrom start u = ((.ok (), s), w) →
          (rest.runFrom s v).1 = (rest.runFrom s w).1 →
            ((do before; swallow (c.run r); rest).runFrom start u).1 =
              ((do before; rest).runFrom start u).1 := by
  have unchanged : t = s := by
    rcases leaves_run (r := r) (w := w) c s with ⟨f, u, hrun⟩ | ⟨_, _, _, hrun, -⟩
    · rw [failed] at hrun
      cases hrun
      rfl
    · rw [failed] at hrun
      cases hrun
  subst unchanged
  refine ⟨rfl, ?_, ?_⟩
  · intro α rest
    rw [runFrom_bind, runFrom_observing, stateFrom, failed]
  · intro α start u before rest reached heedless
    have swallowed : (swallow (c.run r)).runFrom t w = ((.ok (), t), v) := by
      rw [runFrom_swallow, stateFrom, failed]
    rw [runFrom_bind, runFrom_bind, reached]
    change ((swallow (c.run r) >>= fun _ => rest).runFrom t w).1 = (rest.runFrom t w).1
    rw [runFrom_bind, swallowed]
    exact heedless

set_option maxRecDepth 4000 in
/-- A block fills the positions of a tuple, counts them outside and fails at an element: the hash
has no part of it, and takes another property under the same name. -/
theorem failed_block_leaves_no_trace :
    let block : ArrayBuilder.Step (StateM Nat) := do
      ArrayBuilder.items do
        TupleBuilder.addProperty .builtin "integer" .empty
        liftM (m := StateM Nat) (modify (· + 1))
      ArrayBuilder.addProperty .builtin "string" .empty
    let pair : Call (StateM Nat) .hash := .property "pair" (.array .empty block)
    let flag : Call (StateM Nat) .hash := .property "pair" (.ofKind "boolean" .empty)
    let h : HashSchema Property := ⟨[("name", .leaf (.new "string" .string))], true, true, false⟩
    (pair.run .builtin).runFrom h 0 = ((.error (.invalidSchema .singleWithTuple), h), 1) ∧
      ((do pure (); swallow (pair.run .builtin); flag.run .builtin).runFrom h 0).1 =
        ((do pure (); flag.run .builtin).runFrom h 0).1 ∧
      Assoc.keys ((do pure (); flag.run .builtin).stateFrom h 0).properties = ["name", "pair"] := by
  intro block pair flag h
  have failed : (pair.run .builtin).runFrom h 0 =
      ((.error (.invalidSchema .singleWithTuple), h), 1) := rfl
  exact ⟨failed,
    (failed_call_leaves_no_trace failed).2.2 (pure ()) (flag.run .builtin) rfl rfl, rfl⟩

end Failing

end Call

end Draft

end Conform
