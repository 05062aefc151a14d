import Conform.Proofs.DefinitionOrder
import Conform.Proofs.Modes

/-!
Shapes of schemas. Whatever blocks do between their calls and whichever calls fail, the properties
of a hash keep different names that are not blank, and what describes an array is settled bit by
bit and never again.
-/

namespace Conform
open Outcome

/-- The names of a hash differ and are not blank. -/
structure HashSchema.Named (h : HashSchema Property) : Prop where
  distinct : (Assoc.keys h.properties).Nodup
  visible : ∀ name ∈ Assoc.keys h.properties, Text.allBlank name = false

/-- At every depth the names of a hash differ and are not blank, and a tuple has positions. -/
inductive Property.WellFormed : Property → Prop where
  | leaf {l : Leaf} : WellFormed (.leaf l)
  | hash {h : HashSchema Property} (named : h.Named)
    (inside : ∀ name p, (name, p) ∈ h.properties → WellFormed p) : WellFormed (.hash h)
  | array {a : ArraySchema Property} (filled : a.mode.Filled)
    (inside : ∀ p ∈ a.mode.properties, WellFormed p) : WellFormed (.array a)

/-- A call runs a block. -/
inductive Part.Runs {m : Type → Type} : Part m → (d : Draft) → AttemptT m d.State Unit → Prop where
  | hash {options : Options} {block : HashBuilder.Step m} : Runs (.hash options block) .hash block
  | array {options : Options} {block : ArrayBuilder.Step m} :
    Runs (.array options block) .array block

namespace Draft

/-- What a call adds, if it adds one thing. -/
def Call.part? {m : Type → Type} {d : Draft} : Call m d → Option (Part m)
  | property _ part | element part | position part => some part
  | _ => none

/-- A call runs a block. -/
inductive Call.Runs {m : Type → Type} :
    {d : Draft} → Call m d → (e : Draft) → AttemptT m e.State Unit → Prop where
  | part {d e : Draft} {c : Call m d} {part : Part m} {block : AttemptT m e.State Unit}
    (h : c.part? = some part) (hp : part.Runs e block) : Runs c e block
  | items {block : TupleBuilder.Step m} : Runs (.items block) .tuple block
  | optionalItems {block : TupleBuilder.Step m} : Runs (.optionalItems block) .tuple block

/-- What a block can do with the draft it is given: calls one after another, as it decides from
their results, from the draft and from its surroundings. It may pass over errors or end with one,
and the blocks of its calls can do the same. Finished properties are taken from a class. -/
inductive Program {ω : Type} (r : Registry) (finished : Property → Prop) :
    (d : Draft) → {α : Type} → AttemptT (StateM ω) d.State α → Prop where
  | done {d : Draft} {α : Type} (a : α) : Program r finished d (pure a)
  | fail {d : Draft} {α : Type} (e : SchemaError) :
    Program r finished d (throw e : AttemptT (StateM ω) d.State α)
  | look {d : Draft} : Program r finished d (get : AttemptT (StateM ω) d.State d.State)
  | aside {d : Draft} {α : Type} (y : StateM ω α) :
    Program r finished d (liftM y : AttemptT (StateM ω) d.State α)
  | andThen {d : Draft} {α β : Type} {x : AttemptT (StateM ω) d.State α}
    {f : α → AttemptT (StateM ω) d.State β} (hx : Program r finished d x)
    (hf : ∀ a, Program r finished d (f a)) : Program r finished d (x >>= f)
  | rescue {d : Draft} {α : Type} {x : AttemptT (StateM ω) d.State α}
    {f : SchemaError → AttemptT (StateM ω) d.State α} (hx : Program r finished d x)
    (hf : ∀ e, Program r finished d (f e)) : Program r finished d (tryCatch x f)
  | call {d : Draft} (c : Call (StateM ω) d)
    (known : ∀ p, c.part? = some (.finished p) → finished p)
    (inside : ∀ e block, c.Runs e block → Program r finished e block) :
    Program r finished d (c.run r)

variable {ω : Type} {r : Registry} {finished : Property → Prop}

theorem Program.swallow {d : Draft} {α : Type} {x : AttemptT (StateM ω) d.State α}
    (h : Program r finished d x) : Program r finished d (AttemptT.swallow x) := by
  have observed : Program r finished d (observing x) :=
    .rescue (.andThen h fun a => .done (Except.ok a)) fun e => .done (Except.error e)
  exact .andThen observed fun _ => .done ()

/-- A call that adds a property of a registered kind runs no block. -/
theorem Program.ofKind {d : Draft} {c : Call (StateM ω) d} {kind : String} {options : Options}
    (h : c.part? = some (.ofKind kind options)) : Program r finished d (c.run r) := by
  refine .call c ?_ ?_
  · intro p hp
    rw [h] at hp
    cases hp
  · intro e block hruns
    cases hruns with
    | part hpart hp =>
      rw [h] at hpart
      cases hpart
      cases hp
    | items | optionalItems => cases h

section Steps
open AttemptT
variable {R : ∀ d : Draft, d.State → d.State → Prop} {d : Draft} {α : Type}
  {x : AttemptT (StateM ω) d.State α}

/-- What every change brings about, a program brings about. -/
theorem Program.relates (refl : ∀ d s, R d s s)
    (trans : ∀ d s t u, R d s t → R d t u → R d s u)
    (step : ∀ {d : Draft} {c : Call (StateM ω) d} {s t : d.State} {w : ω},
      (∀ p, c.part? = some (.finished p) → finished p) →
      (∀ e block, c.Runs e block → ∀ s w, R e s (AttemptT.stateFrom block s w)) →
      Change r w c s t → R d s t)
    (h : Program r finished d x) (s : d.State) (w : ω) : R d s (AttemptT.stateFrom x s w) := by
  -- Only calls change a draft; the blocks that they run are programs themselves, so the induction
  -- hands the relation for these blocks to the step.
  induction h generalizing w with
  | done | fail | look | aside => exact refl _ _
  | @andThen d α β x f _ _ hx hf =>
    have first := hx s w
    unfold AttemptT.stateFrom at first hf ⊢
    rw [runFrom_bind]
    generalize x.runFrom s w = o at first ⊢
    obtain ⟨⟨result, t⟩, v⟩ := o
    cases result with
    | error e => exact first
    | ok a => exact trans _ _ _ _ first (hf a t v)
  | @rescue d α x f _ _ hx hf =>
    have first := hx s w
    unfold AttemptT.stateFrom at first hf ⊢
    rw [runFrom_tryCatch]
    generalize x.runFrom s w = o at first ⊢
    obtain ⟨⟨result, t⟩, v⟩ := o
    cases result with
    | error e => exact trans _ _ _ _ first (hf e t v)
    | ok a => exact first
  | call c known inside ih =>
    unfold AttemptT.stateFrom
    rcases Call.leaves_run c s with ⟨e, v, hrun⟩ | ⟨_, t, v, hrun, change⟩
    · rw [hrun]
      exact refl _ _
    · rw [hrun]
      exact step known ih change

end Steps

/-- The names of a hash stay different and visible, and the mode of an array moves on. -/
def Kept : (d : Draft) → d.State → d.State → Prop
  | .hash, h, g => h.Named → g.Named
  | .array, a, b => a.mode.Moves b.mode
  | .tuple, _, _ | .leaf, _, _ => True

variable {d : Draft} {c : Call (StateM ω) d} {s t : d.State} {w : ω}

theorem named_push {name : String} {h : HashSchema Property} {p : Property}
    (available : HashBuilder.ensureAvailable name h = .ok ()) (hn : h.Named) :
    HashSchema.Named { h with properties := h.properties ++ [(name, p)] } := by
  obtain ⟨visible, fresh⟩ := HashBuilder.ensureAvailable_eq_ok_iff.mp available
  refine ⟨Assoc.nodup_append hn.distinct fresh, ?_⟩
  intro other hother
  rw [Assoc.keys, List.map_append, List.mem_append] at hother
  rcases hother with hold | hnew
  · exact hn.visible other hold
  · rw [List.mem_singleton.mp hnew]
    exact visible

/-- Whatever a call makes of an array, it settles one thing. -/
theorem Change.mode_step {c : Call (StateM ω) .array} {a b : ArraySchema Property}
    (change : Change r w c a b) : a.mode.Step b.mode := by
  cases change with
  | element available _ => exact ArrayBuilder.step_single available
  | items available _ hne filled => exact ArrayBuilder.step_fillRequired available hne filled
  | optionalItems available _ hne filled =>
    exact ArrayBuilder.step_fillOptional available hne filled

theorem Change.kept (change : Change r w c s t) : Kept d s t := by
  cases d with
  | hash =>
    cases change with
    | property available _ => exact named_push available
    | relaxed | strict => exact fun hn => ⟨hn.distinct, hn.visible⟩
  | array => exact .single change.mode_step
  | tuple | leaf => trivial

theorem Program.kept {α : Type} {x : AttemptT (StateM ω) d.State α} (h : Program r finished d x)
    (s : d.State) (w : ω) : Kept d s (x.stateFrom s w) := by
  refine h.relates (R := Kept) ?_ ?_ ?_ s w
  · intro d s
    cases d with
    | hash => exact id
    | array => exact .refl
    | tuple | leaf => trivial
  · intro d s t u hst htu
    cases d with
    | hash => exact fun hn => htu (hst hn)
    | array => exact hst.trans htu
    | tuple | leaf => trivial
  · intro d c s t w _ _ change
    exact change.kept

/-- A draft whose properties are all well formed, and so is what it holds of them. -/
def Sound : (d : Draft) → d.State → Prop
  | .hash, h => (Property.hash h).WellFormed
  | .array, a => (Property.array a).WellFormed
  | .tuple, ps => ∀ p ∈ ps, p.WellFormed
  | .leaf, _ => True

section Blocks
open AttemptT

/-- What a block that succeeds makes of the state it is started in. -/
theorem stateFrom_of_ok {σ : Type} {x : AttemptT (StateM ω) σ Unit} {s t : σ}
    (h : (StateT.run (do
      let (result, u) ← x.outcome s
      return result.map fun _ => u : StateM ω (Except SchemaError σ)) w).1 = .ok t) :
    t = x.stateFrom s w := by
  change (x.runFrom s w).1.1.map (fun _ => x.stateFrom s w) = .ok t at h
  obtain ⟨_, _, rfl⟩ := map_eq_ok_iff.mp h
  rfl

theorem stateFrom_of_hash {options : Options} {block : HashBuilder.Step (StateM ω)}
    {h : HashSchema Property} (made : ((HashSchema.defineWith options block).run w).1 = .ok h) :
    ∃ start, HashSchema.ofOptions options = .ok start ∧ h = block.stateFrom start w := by
  unfold HashSchema.defineWith at made
  cases hstart : HashSchema.ofOptions (P := Property) options with
  | error e =>
    rw [hstart] at made
    cases made
  | ok start =>
    rw [hstart] at made
    exact ⟨start, rfl, stateFrom_of_ok made⟩

theorem stateFrom_of_array {options : Options} {block : ArrayBuilder.Step (StateM ω)}
    {a : ArraySchema Property} (made : ((ArraySchema.defineWith options block).run w).1 = .ok a) :
    ∃ start, ArraySchema.ofOptions options = .ok start ∧ a = block.stateFrom start w := by
  unfold ArraySchema.defineWith at made
  cases hstart : ArraySchema.ofOptions (P := Property) options with
  | error e =>
    rw [hstart] at made
    cases made
  | ok start =>
    rw [hstart] at made
    exact ⟨start, rfl, stateFrom_of_ok made⟩

theorem sound_of_hash {options : Options} {start : HashSchema Property}
    (h : HashSchema.ofOptions options = .ok start) : Sound .hash start := by
  have none := HashSchema.properties_of_ofOptions h
  refine .hash ⟨?_, ?_⟩ ?_ <;> rw [none] <;> simp [Assoc.keys]

theorem sound_of_array {options : Options} {start : ArraySchema Property}
    (h : ArraySchema.ofOptions options = .ok start) : Sound .array start := by
  have unset := ArraySchema.mode_of_ofOptions h
  refine .array ?_ ?_ <;> rw [unset]
  · trivial
  · simp [ArrayMode.properties]

variable (made : ∀ kind options p, r.buildProperty kind options = .ok p → p.WellFormed)
include made

theorem wellFormed_of_made {part : Part (StateM ω)} {p : Property}
    (known : ∀ q, part = .finished q → q.WellFormed)
    (inside : ∀ e block, part.Runs e block → ∀ s w, Sound e s → Sound e (block.stateFrom s w))
    (h : ((part.made r).run w).1 = .ok p) : p.WellFormed := by
  cases part with
  | finished q =>
    cases h
    exact known p rfl
  | ofKind kind options => exact made kind options p h
  | hash options block =>
    obtain ⟨g, hg, rfl⟩ := map_eq_ok_iff.mp h
    obtain ⟨start, hstart, rfl⟩ := stateFrom_of_hash hg
    exact inside _ _ .hash start w (sound_of_hash hstart)
  | array options block =>
    obtain ⟨a, ha, rfl⟩ := map_eq_ok_iff.mp h
    obtain ⟨start, hstart, rfl⟩ := stateFrom_of_array ha
    exact inside _ _ .array start w (sound_of_array hstart)

theorem Change.sound (known : ∀ p, c.part? = some (.finished p) → p.WellFormed)
    (inside : ∀ e block, c.Runs e block → ∀ s w, Sound e s → Sound e (block.stateFrom s w))
    (change : Change r w c s t) (hs : Sound d s) : Sound d t := by
  have part_made : ∀ {part p}, c.part? = some part → ((part.made r).run w).1 = .ok p →
      p.WellFormed := by
    intro part p hpart hp
    refine wellFormed_of_made made ?_ ?_ hp
    · rintro q rfl
      exact known q hpart
    · intro e block hruns
      exact inside e block (.part hpart hruns)
  cases change with
  | property available hp =>
    cases hs with
    | hash named below =>
      refine .hash (named_push available named) ?_
      intro other q hq
      rcases List.mem_append.mp hq with hold | hnew
      · exact below other q hold
      · cases List.mem_singleton.mp hnew
        exact part_made rfl hp
  | relaxed | strict =>
    cases hs with
    | hash named below => exact .hash ⟨named.distinct, named.visible⟩ below
  | element _ hp =>
    refine .array trivial ?_
    intro q hq
    rw [List.mem_singleton.mp hq]
    exact part_made rfl hp
  | items available hps hne filled =>
    cases hs with
    | array _ below =>
      refine .array (ArrayBuilder.step_fillRequired available hne filled).filled ?_
      intro q hq
      rcases ArrayBuilder.mem_of_fillRequired filled hq with hold | hnew
      · exact below q hold
      · rw [stateFrom_of_ok hps] at hnew
        exact inside _ _ .items [] w (by simp [Sound]) q hnew
  | optionalItems available hps hne filled =>
    cases hs with
    | array _ below =>
      refine .array (ArrayBuilder.step_fillOptional available hne filled).filled ?_
      intro q hq
      rcases ArrayBuilder.mem_of_fillOptional filled hq with hold | hnew
      · exact below q hold
      · rw [stateFrom_of_ok hps] at hnew
        exact inside _ _ .optionalItems [] w (by simp [Sound]) q hnew
  | position hp =>
    intro q hq
    rcases List.mem_append.mp hq with hold | hnew
    · exact hs q hold
    · rw [List.mem_singleton.mp hnew]
      exact part_made rfl hp
  | validator => trivial

theorem Program.sound {α : Type} {x : AttemptT (StateM ω) d.State α}
    (known : ∀ p, finished p → p.WellFormed) (h : Program r finished d x) (s : d.State) (w : ω)
    (hs : Sound d s) : Sound d (x.stateFrom s w) := by
  have all := h.relates (R := fun d s t => Sound d s → Sound d t) ?_ ?_ ?_ s w
  · exact all hs
  · intro d s
    exact id
  · intro d s t u hst htu hs
    exact htu (hst hs)
  · intro d c s t w finished_known inside change
    refine change.sound made ?_ inside
    intro p hp
    exact known p (finished_known p hp)

end Blocks

end Draft

namespace Definition
variable {n : Node} {parts : Parts} {path : String} {d : Json} {p : Property}

theorem named_of_hash {h : HashSchema Property} (hok : hash n parts = .ok h) : h.Named := by
  obtain ⟨children, options, start, -, -, -, hstart, hsteps⟩ := hash_eq_ok hok
  have none := HashSchema.properties_of_ofOptions hstart
  obtain ⟨visible, distinct, rfl⟩ := (HashBuilder.inserted_eq_some_iff none).mp hsteps
  exact ⟨distinct, visible⟩

theorem filled_of_modeOf {element : Option Property} {first later : Option (List Property)}
    {mode : ArrayMode Property} (h : ArrayBuilder.modeOf? element first later = some mode) :
    mode.Filled := by
  unfold ArrayBuilder.modeOf? at h
  split at h <;> cases h
  · trivial
  · trivial
  all_goals simp [ArrayMode.Filled]

theorem filled_of_array {a : ArraySchema Property} (hok : array n parts = .ok a) :
    a.mode.Filled := by
  obtain ⟨_, _, _, -, -, -, hmode⟩ := mode_of_array hok
  exact filled_of_modeOf hmode

theorem wellFormed_of_property {r : Registry}
    (made : ∀ kind options p, r.buildProperty kind options = .ok p → p.WellFormed)
    (h : property r path d = .ok p) : p.WellFormed :=
  property_induct made (fun hok inside => .hash (named_of_hash hok) inside)
    (fun hok inside => .array (filled_of_array hok) inside) h

end Definition

/-- A property that can be had at all: a leaf, a container that a program builds over a registry
and of finished properties that can be had, or what a definition over such a registry describes. -/
inductive Property.Obtainable : Property → Prop where
  | leaf (l : Leaf) : Obtainable (.leaf l)
  | hash {ω : Type} {r : Registry} {finished : Property → Prop} {options : Options}
    {block : HashBuilder.Step (StateM ω)} {w : ω} {h : HashSchema Property}
    (kinds : ∀ kind options p, r.buildProperty kind options = .ok p → Obtainable p)
    (known : ∀ p, finished p → Obtainable p) (program : Draft.Program r finished .hash block)
    (built : ((HashSchema.defineWith options block).run w).1 = .ok h) : Obtainable (.hash h)
  | array {ω : Type} {r : Registry} {finished : Property → Prop} {options : Options}
    {block : ArrayBuilder.Step (StateM ω)} {w : ω} {a : ArraySchema Property}
    (kinds : ∀ kind options p, r.buildProperty kind options = .ok p → Obtainable p)
    (known : ∀ p, finished p → Obtainable p) (program : Draft.Program r finished .array block)
    (built : ((ArraySchema.defineWith options block).run w).1 = .ok a) : Obtainable (.array a)
  | described {r : Registry} {path : String} {d : Json} {p : Property}
    (kinds : ∀ kind options p, r.buildProperty kind options = .ok p → Obtainable p)
    (built : Definition.property r path d = .ok p) : Obtainable p

theorem Property.Obtainable.wellFormed {p : Property} (h : p.Obtainable) : p.WellFormed := by
  induction h with
  | leaf => exact .leaf
  | hash _ _ program built kinds known =>
    obtain ⟨start, hstart, rfl⟩ := Draft.stateFrom_of_hash built
    exact program.sound kinds known start _ (Draft.sound_of_hash hstart)
  | array _ _ program built kinds known =>
    obtain ⟨start, hstart, rfl⟩ := Draft.stateFrom_of_array built
    exact program.sound kinds known start _ (Draft.sound_of_array hstart)
  | described _ built kinds => exact Definition.wellFormed_of_property kinds built

theorem HashSchema.run_defineWith_pure (options : Options) :
    ((defineWith (m := StateM Unit) options (pure ())).run ()).1 = ofOptions options := by
  unfold defineWith
  cases ofOptions (P := Property) options <;> rfl

theorem ArraySchema.run_defineWith_pure (options : Options) :
    ((defineWith (m := StateM Unit) options (pure ())).run ()).1 = ofOptions options := by
  unfold defineWith
  cases ofOptions (P := Property) options <;> rfl

/-- What the builtin kinds make can be had: their containers come of empty blocks. -/
theorem Property.obtainable_of_builtin {kind : String} {options : Options} {p : Property}
    (h : Registry.builtin.buildProperty kind options = .ok p) : p.Obtainable := by
  have no_kinds : ∀ kind options p,
      Registry.empty.buildProperty kind options = .ok p → p.Obtainable := by
    intro _ _ _ hp
    cases hp
  have no_finished : ∀ p : Property, False → p.Obtainable := by
    intro _ hp
    exact hp.elim
  cases Registry.builtinMakes_of_buildProperty h with
  | leaf _ made =>
    obtain ⟨_, _, heq⟩ := bind_eq_ok_iff.mp made
    cases heq
    exact .leaf _
  | array made =>
    exact .array no_kinds no_finished (.done ()) ((ArraySchema.run_defineWith_pure _).trans made)
  | hash made =>
    exact .hash no_kinds no_finished (.done ()) ((HashSchema.run_defineWith_pure _).trans made)

namespace Draft
open AttemptT
variable {ω : Type} {r : Registry} {finished : Property → Prop}

theorem call_mode (c : Call (StateM ω) .array) (a : ArraySchema Property) (w : ω) :
    ((c.run r).stateFrom a w).mode = a.mode ∨ a.mode.Step ((c.run r).stateFrom a w).mode := by
  rcases Call.leaves_run (r := r) c a with ⟨e, v, hrun⟩ | ⟨_, b, v, hrun, change⟩
  · left
    rw [stateFrom, hrun]
  · right
    rw [stateFrom, hrun]
    exact change.mode_step

/-- Whatever programs do, a hash has no two properties of one name and none of a blank name, and
each call settles at most one thing about an array, which then stays: that one property describes
all elements, the required positions of a tuple, or the optional ones. Positions may be given in
either order. So all that can be had from builders and definitions is well formed at every depth. -/
theorem builders_settle_shapes :
    (∀ {α : Type} {x : AttemptT (StateM ω) (HashSchema Property) α} {options : Options}
      {start : HashSchema Property} (w : ω), Program r finished .hash x →
        HashSchema.ofOptions options = .ok start → (x.stateFrom start w).Named) ∧
      (∀ (c : Call (StateM ω) .array) (a : ArraySchema Property) (w : ω),
        ((c.run r).stateFrom a w).mode = a.mode ∨
          a.mode.Step ((c.run r).stateFrom a w).mode) ∧
      (∀ {α : Type} {x : AttemptT (StateM ω) (ArraySchema Property) α}
        (a : ArraySchema Property) (w : ω), Program r finished .array x →
          let next := (x.stateFrom a w).mode
          a.mode.Moves next ∧ (a.mode = .unset → next.Filled) ∧
            (∀ p, a.mode = .single p → next = .single p) ∧
              ∀ ps qs, a.mode = .tuple ps qs → ∃ ps' qs', next = .tuple ps' qs' ∧
                (ps ≠ [] → ps' = ps) ∧ (qs ≠ [] → qs' = qs)) ∧
      (∀ {first later : TupleBuilder.Step (StateM ω)} {ps qs : List Property} {w w₁ w₂ v₁ v₂ : ω},
        first.runFrom [] w = ((.ok (), ps), w₁) → later.runFrom [] w₁ = ((.ok (), qs), w₂) →
        later.runFrom [] w = ((.ok (), qs), v₁) → first.runFrom [] v₁ = ((.ok (), ps), v₂) →
          ∀ a : ArraySchema Property,
            let next := ((do swallow ((Call.items first).run r)
                             swallow ((Call.optionalItems later).run r)).stateFrom a w).mode
            next = ((do swallow ((Call.optionalItems later).run r)
                        swallow ((Call.items first).run r)).stateFrom a w).mode ∧
              (a.mode = .unset → ps ≠ [] → qs ≠ [] → next = .tuple ps qs)) ∧
      ∀ p : Property, p.Obtainable → p.WellFormed := by
  refine ⟨?_, call_mode, ?_, ?_, fun p hp => hp.wellFormed⟩
  · intro α x options start w h hstart
    have fresh : start.Named := by
      cases sound_of_hash hstart with
      | hash named _ => exact named
    exact h.kept start w fresh
  · intro α x a w h next
    have moves : a.mode.Moves next := h.kept a w
    refine ⟨moves, ?_, ?_, ?_⟩
    · intro hunset
      rw [hunset] at moves
      exact moves.filled trivial
    · intro p hsingle
      rw [hsingle] at moves
      exact moves.of_single
    · intro ps qs htuple
      rw [htuple] at moves
      exact moves.of_tuple
  · intro first later ps qs w w₁ w₂ v₁ v₂ hps hqs hqs' hps' a
    exact ArrayBuilder.items_optionalItems_comm hps hqs hqs' hps' a

set_option maxRecDepth 4000 in
/-- A block passes over errors of its own and of the block inside, which gives the positions of a
tuple the other way round. -/
theorem pair_survives_refused_calls :
    let first : TupleBuilder.Step (StateM Nat) :=
      (Call.position (.ofKind "integer" .empty)).run .builtin
    let later : TupleBuilder.Step (StateM Nat) :=
      (Call.position (.ofKind "nil" .empty)).run .builtin
    let pair : ArrayBuilder.Step (StateM Nat) := do
      (Call.optionalItems later).run .builtin
      swallow ((Call.element (.ofKind "string" .empty)).run .builtin)
      (Call.items first).run .builtin
    let block : HashBuilder.Step (StateM Nat) := do
      swallow ((Call.property " " (.ofKind "string" .empty)).run .builtin)
      (Call.property "pair" (.array .empty pair)).run .builtin
      swallow ((Call.property "pair" (.ofKind "string" .empty)).run .builtin)
    let start : ArraySchema Property := ⟨.unset, false, none, none, true, false⟩
    (∃ h : HashSchema Property, ((HashSchema.defineWith .empty block).run 0).1 = .ok h ∧
      Assoc.keys h.properties = ["pair"] ∧ Program .builtin (fun _ => False) .hash block ∧
        h.Named ∧ (Property.hash h).WellFormed) ∧
      ArrayMode.Moves .unset (pair.stateFrom start 0).mode ∧
        ∃ p q, first.runFrom [] 0 = ((.ok (), [p]), 0) ∧ later.runFrom [] 0 = ((.ok (), [q]), 0) ∧
          ((do swallow ((Call.items first).run .builtin)
               swallow ((Call.optionalItems later).run .builtin)).stateFrom start 0).mode =
            .tuple [p] [q] := by
  intro first later pair block start
  have tuple : ∀ e inner, Call.Runs (Call.items first) e inner ∨
      Call.Runs (Call.optionalItems later) e inner →
        Program .builtin (fun _ => False) e inner := by
    rintro e inner (hruns | hruns)
    · cases hruns with
      | part hpart => cases hpart
      | items => exact .ofKind rfl
    · cases hruns with
      | part hpart => cases hpart
      | optionalItems => exact .ofKind rfl
  have positions : Program .builtin (fun _ => False) .array pair := by
    refine .andThen (.call _ (by rintro _ ⟨⟩) fun e inner h => tuple e inner (.inr h)) fun _ => ?_
    refine .andThen (.swallow (.ofKind rfl)) fun _ => ?_
    exact .call _ (by rintro _ ⟨⟩) fun e inner h => tuple e inner (.inl h)
  have program : Program .builtin (fun _ => False) .hash block := by
    refine .andThen (.swallow (.ofKind rfl)) fun _ => ?_
    refine .andThen (.call _ (by rintro _ ⟨⟩) ?_) fun _ => .swallow (.ofKind rfl)
    intro e inner hruns
    cases hruns with
    | part hpart hp =>
      cases hpart
      cases hp
      exact positions
  have made : ((HashSchema.defineWith .empty block).run 0).1 =
      .ok (block.stateFrom ⟨[], true, true, false⟩ 0) := rfl
  have obtained : (Property.hash (block.stateFrom ⟨[], true, true, false⟩ 0)).Obtainable := by
    refine .hash ?_ ?_ program made
    · intro kind options p hp
      exact Property.obtainable_of_builtin hp
    · intro p hp
      exact hp.elim
  have fresh : HashSchema.ofOptions (P := Property) .empty = .ok ⟨[], true, true, false⟩ := rfl
  have settled := @builders_settle_shapes Nat .builtin fun _ => False
  obtain ⟨named, -, moving, exchanged, shaped⟩ := settled
  refine ⟨⟨_, made, rfl, program, named 0 program fresh, shaped _ obtained⟩, ?_, ?_⟩
  · exact (moving start 0 positions).1
  · refine ⟨_, _, rfl, rfl, ?_⟩
    exact (exchanged rfl rfl rfl rfl start).2 rfl (by simp) (by simp)

end Draft

end Conform
