import Mathlib.Data.List.Forall2
import Conform.Proofs.OptionOrder

/-!
Definitions in another order. The keys of a definition, of its `properties` and of the definitions
inside may be permuted: it is accepted as before, and what the schema says of documents differs in
order only.
-/

namespace Conform
open Outcome

namespace HashBuilder

theorem ensureAvailable_eq_ok_iff {name : String} {h : HashSchema Property} :
    ensureAvailable name h = .ok () ↔
      Text.allBlank name = false ∧ name ∉ h.properties.map (·.1) := by
  rw [← Assoc.contains_iff]
  unfold ensureAvailable
  split
  · simp [*]
  · split <;> simp [*]

/-- Properties are added under names that are not blank and differ. -/
theorem insertAll_eq_some_iff {children : List (String × Property)} {h t : HashSchema Property} :
    AttemptT.after? (children.forM fun entry => insert (m := Id) entry.1 entry.2) h =
      some ((), t) ↔
        (∀ name ∈ children.map (·.1), Text.allBlank name = false) ∧
          Assoc.Fresh (h.properties.map (·.1)) (children.map (·.1)) ∧
            t = { h with properties := h.properties ++ children } := by
  induction children generalizing h with
  | nil =>
    constructor
    · rintro ⟨⟩
      exact ⟨by simp, Assoc.fresh_nil _, by simp⟩
    · rintro ⟨-, -, rfl⟩
      simp
  | cons entry children ih =>
    obtain ⟨name, p⟩ := entry
    rw [List.forM_eq_forM] at ih ⊢
    rw [List.forM_cons, AttemptT.after?_bind, insert_after?, Option.bind_eq_some_iff,
      List.map_cons, List.forall_mem_cons, Assoc.fresh_cons_iff]
    constructor
    · rintro ⟨⟨_, u⟩, hu, ht⟩
      obtain ⟨_, ha, heq⟩ := Option.map_eq_some_iff.mp hu
      cases heq
      obtain ⟨hname, hnew⟩ := ensureAvailable_eq_ok_iff.mp (toOption_eq_some_iff.mp ha)
      obtain ⟨hblank, hfresh, rfl⟩ := ih.mp ht
      rw [List.map_append] at hfresh
      exact ⟨⟨hname, hblank⟩, ⟨hnew, hfresh⟩, by simp⟩
    · rintro ⟨⟨hname, hblank⟩, ⟨hnew, hfresh⟩, rfl⟩
      have ha := toOption_eq_some_iff.mpr (ensureAvailable_eq_ok_iff.mpr ⟨hname, hnew⟩)
      refine ⟨_, Option.map_eq_some_iff.mpr ⟨(), ha, rfl⟩, ?_⟩
      rw [ih, List.map_append]
      exact ⟨hblank, hfresh, by simp⟩

theorem inserted_eq_some_iff {children : List (String × Property)} {start g : HashSchema Property}
    (hstart : start.properties = []) :
    (AttemptT.after? (children.forM fun entry => insert (m := Id) entry.1 entry.2) start).map
        (·.2) = some g ↔
      (∀ name ∈ children.map (·.1), Text.allBlank name = false) ∧ (children.map (·.1)).Nodup ∧
        g = { start with properties := children } := by
  have hfresh : Assoc.Fresh (start.properties.map (·.1)) (children.map (·.1)) ↔
      (children.map (·.1)).Nodup := by
    rw [hstart]
    exact Assoc.fresh_iff_nodup
  rw [Option.map_eq_some_iff, ← hfresh]
  constructor
  · rintro ⟨⟨_, t⟩, ht, rfl⟩
    obtain ⟨hblank, fresh, rfl⟩ := insertAll_eq_some_iff.mp ht
    exact ⟨hblank, fresh, by simp [hstart]⟩
  · rintro ⟨hblank, fresh, rfl⟩
    exact ⟨_, insertAll_eq_some_iff.mpr ⟨hblank, fresh, rfl⟩, by simp [hstart]⟩

end HashBuilder

namespace ArrayBuilder

/-- The mode of an array whose elements are described by finished properties. Both an element and
positions, or no positions where there should be some, describe nothing. -/
def modeOf? : Option Property → Option (List Property) → Option (List Property) →
    Option (ArrayMode Property)
  | none, none, none => some .unset
  | some p, none, none => some (.single p)
  | none, some (p :: ps), none => some (.tuple (p :: ps) [])
  | none, none, some (q :: qs) => some (.tuple [] (q :: qs))
  | none, some (p :: ps), some (q :: qs) => some (.tuple (p :: ps) (q :: qs))
  | _, _, _ => none

theorem items_after? (ps : List Property) (a : ArraySchema Property) :
    (items (ps.forM (TupleBuilder.push (m := Id)))).after? a =
      (ensureTupleAvailable a.mode).toOption.bind fun _ =>
        if ps.isEmpty then none
        else (fillRequired ps a.mode).toOption.map fun mode => ((), { a with mode := mode }) := by
  change (fillBy fillRequired _).after? a = _
  rw [fillBy_after?, TupleBuilder.pushAll_after?]
  rfl

theorem optionalItems_after? (ps : List Property) (a : ArraySchema Property) :
    (optionalItems (ps.forM (TupleBuilder.push (m := Id)))).after? a =
      (ensureTupleAvailable a.mode).toOption.bind fun _ =>
        if ps.isEmpty then none
        else (fillOptional ps a.mode).toOption.map fun mode => ((), { a with mode := mode }) := by
  change (fillBy fillOptional _).after? a = _
  rw [fillBy_after?, TupleBuilder.pushAll_after?]
  rfl

theorem arraySteps_after? {start : ArraySchema Property} (hstart : start.mode = .unset)
    (element : Option Property) (first later : Option (List Property)) :
    ((Definition.arraySteps element first later).after? start).map (·.2) =
      (modeOf? element first later).map fun mode => { start with mode := mode } := by
  obtain ⟨mode, unique, minSize, maxSize, required, allowNil⟩ := start
  cases hstart
  cases element <;> rcases first with _ | ps <;> rcases later with _ | qs <;>
    simp only [Definition.arraySteps, Option.forM, AttemptT.after?_bind, AttemptT.after?_pure,
      items_after?, optionalItems_after?, set_after?, Option.bind_some]
  · rfl
  · cases qs <;> rfl
  · cases ps <;> rfl
  · cases ps <;> cases qs <;> rfl
  · rfl
  · cases qs <;> rfl
  · cases ps <;> rfl
  · cases ps <;> cases qs <;> rfl

/-- Modes that make arrays alike, whatever else the arrays ask for. -/
def ModeReordered (m n : ArrayMode Property) : Prop :=
  ∀ start : ArraySchema Property,
    Property.Reordered (.array { start with mode := m }) (.array { start with mode := n })

theorem modeReordered_of_at? {m n : ArrayMode Property}
    (bounds : ∀ least most, m.bounds least most = n.bounds least most)
    (positions : ∀ i, Option.Rel Property.Reordered (m.at? i) (n.at? i)) : ModeReordered m n := by
  intro start
  refine .array ⟨rfl, rfl, rfl, bounds _ _, ?_⟩ ?_
  · intro i
    change (m.at? i).isSome = (n.at? i).isSome
    rcases rel_cases (positions i) with ⟨hm, hn⟩ | ⟨p, q, hm, hn, -⟩
    · rw [hm, hn]
    · rw [hm, hn]
      rfl
  · intro i p q hp hq
    have hrel := positions i
    rw [show m.at? i = some p from hp, show n.at? i = some q from hq] at hrel
    cases hrel with
    | some h => exact h

theorem rel_getElem?_of_forall₂ {α : Type} {R : α → α → Prop} {xs ys : List α}
    (h : List.Forall₂ R xs ys) (i : Nat) : Option.Rel R xs[i]? ys[i]? := by
  induction h generalizing i with
  | nil => exact .none
  | cons hr _ ih =>
    cases i with
    | zero => exact .some hr
    | succ i => exact ih i

theorem modeReordered_tuple {ps qs ps' qs' : List Property}
    (first : List.Forall₂ Property.Reordered ps qs)
    (later : List.Forall₂ Property.Reordered ps' qs') :
    ModeReordered (.tuple ps ps') (.tuple qs qs') := by
  apply modeReordered_of_at?
  · intro least most
    simp only [ArrayMode.bounds, first.length_eq, later.length_eq]
  · exact rel_getElem?_of_forall₂ (List.rel_append first later)

theorem modeOf?_reordered {element element' : Option Property}
    {first first' later later' : Option (List Property)}
    (helement : Option.Rel Property.Reordered element element')
    (hfirst : Option.Rel (List.Forall₂ Property.Reordered) first first')
    (hlater : Option.Rel (List.Forall₂ Property.Reordered) later later') :
    Option.Rel ModeReordered (modeOf? element first later) (modeOf? element' first' later') := by
  have unset : ModeReordered .unset .unset := modeReordered_of_at? (fun _ _ => rfl) fun _ => .none
  cases helement with
  | @some p q hpq =>
    have single : ModeReordered (.single p) (.single q) :=
      modeReordered_of_at? (fun _ _ => rfl) fun _ => .some hpq
    cases hfirst with
    | some _ => cases hlater <;> exact .none
    | none =>
      cases hlater with
      | some _ => exact .none
      | none => exact .some single
  | none =>
    cases hfirst with
    | some hfirst =>
      cases hlater with
      | some hlater =>
        cases hfirst with
        | nil => exact .none
        | cons hp hps =>
          cases hlater with
          | nil => exact .none
          | cons hq hqs => exact .some (modeReordered_tuple (.cons hp hps) (.cons hq hqs))
      | none =>
        cases hfirst with
        | nil => exact .none
        | cons hp hps => exact .some (modeReordered_tuple (.cons hp hps) .nil)
    | none =>
      cases hlater with
      | some hlater =>
        cases hlater with
        | nil => exact .none
        | cons hq hqs => exact .some (modeReordered_tuple .nil (.cons hq hqs))
      | none => exact .some unset

end ArrayBuilder

namespace Definition

theorem mode_of_array {n : Node} {built : Parts} {a : ArraySchema Property}
    (hok : array n built = .ok a) :
    ∃ element first later, built.element = .ok element ∧ built.items = .ok first ∧
      built.optionalItems = .ok later ∧
      ArrayBuilder.modeOf? element first later = some a.mode := by
  obtain ⟨element, first, later, _, start, -, helement, hfirst, hlater, -, hstart, hsteps⟩ :=
    array_eq_ok hok
  rw [ArrayBuilder.arraySteps_after? (ArraySchema.mode_of_ofOptions hstart),
    Option.map_eq_some_iff] at hsteps
  obtain ⟨mode, hmode, rfl⟩ := hsteps
  exact ⟨element, first, later, helement, hfirst, hlater, hmode⟩

mutual

/-- The keys of a definition stand in another order, as may those of its `properties` and of the
definitions inside. Options are the same. -/
inductive Reordered : Json → Json → Prop where
  | same {d : Json} : Reordered d d
  | node {fields others : List (String × Json)} (distinct : (fields.map (·.1)).Nodup)
    (keys : (fields.map (·.1)).Perm (others.map (·.1)))
    (values : ∀ key v w, (key, v) ∈ fields → (key, w) ∈ others → ReorderedAt key v w) :
    Reordered (.object fields) (.object others)

/-- What stands under a key of a definition and of the other one. -/
inductive ReorderedAt : String → Json → Json → Prop where
  | same {key : String} {v : Json} : ReorderedAt key v v
  | properties {key : String} {entries others : List (String × Json)} (hkey : key = "properties")
    (names : (entries.map (·.1)).Perm (others.map (·.1)))
    (inside : ∀ name c d, (name, c) ∈ entries → (name, d) ∈ others → Reordered c d) :
    ReorderedAt key (.object entries) (.object others)
  | element {key : String} {c d : Json} (hkey : key = "element") (inside : Reordered c d) :
    ReorderedAt key c d
  | positions {key : String} {items others : List Json}
    (hkey : key = "items" ∨ key = "optional_items") (length : items.length = others.length)
    (inside : ∀ (i : Nat) c d, items[i]? = some c → others[i]? = some d → Reordered c d) :
    ReorderedAt key (.array items) (.array others)

end

/-- The keys alone are permuted. -/
theorem Reordered.of_perm {fields others : List (String × Json)}
    (distinct : (fields.map (·.1)).Nodup) (h : fields.Perm others) :
    Reordered (.object fields) (.object others) := by
  refine .node distinct (h.map _) fun key v w hv hw => ?_
  obtain rfl := Assoc.eq_of_mem distinct hv (h.mem_iff.mpr hw)
  exact .same

/-- Wherever two definitions stand, both are refused or what they describe differs in order only. -/
def BuildsAlike (c d : Json) : Prop :=
  ∀ path, Option.Rel Property.Reordered (property .builtin path c).toOption
    (property .builtin path d).toOption

variable {path key name : String} {c d : Json} {fields others : List (String × Json)}
variable {ps qs : List (String × Property)} {v w : Json}

theorem BuildsAlike.self (d : Json) : BuildsAlike d d := by
  intro path
  refine rel_self fun p hp => ?_
  exact (wellNamed_of_property Registry.wellNamed_builtin
    (toOption_eq_some_iff.mp hp)).reordered_self

theorem ReorderedAt.eq (h : ReorderedAt key v w)
    (hkey : key ∉ ["properties", "element", "items", "optional_items"]) : v = w := by
  cases h with
  | same => rfl
  | properties hp _ _ => simp [hp] at hkey
  | element he _ => simp [he] at hkey
  | positions hi _ _ => rcases hi with rfl | rfl <;> simp at hkey

/-- The properties under different names are alike, whatever their order. -/
structure ChildrenReordered (ps qs : List (String × Property)) : Prop where
  names : (ps.map (·.1)).Perm (qs.map (·.1))
  inside : (ps.map (·.1)).Nodup → ∀ name p q, (name, p) ∈ ps → (name, q) ∈ qs → p.Reordered q

theorem properties_ok_iff {r : Registry} : (∃ ps, properties r path fields = .ok ps) ↔
    ∀ name d, (name, d) ∈ fields → ∃ p, property r (path ++ ".properties." ++ name) d = .ok p := by
  rw [properties_eq_mapM, mapM_ok_iff]
  constructor
  · intro hall name d hmem
    obtain ⟨_, hb⟩ := hall (name, d) hmem
    obtain ⟨p, hp, -⟩ := map_eq_ok_iff.mp hb
    exact ⟨p, hp⟩
  · rintro hall ⟨name, d⟩ hmem
    obtain ⟨p, hp⟩ := hall name d hmem
    exact ⟨(name, p), map_eq_ok_iff.mpr ⟨p, hp, rfl⟩⟩

theorem names_of_properties {r : Registry} (hok : properties r path fields = .ok ps) :
    ps.map (·.1) = fields.map (·.1) := by
  rw [properties_eq_mapM] at hok
  refine map_eq_of_mapM hok ?_
  intro entry p hp
  obtain ⟨_, _, rfl⟩ := map_eq_ok_iff.mp hp
  rfl

theorem properties_reordered (names : (fields.map (·.1)).Perm (others.map (·.1)))
    (inside : ∀ name c d, (name, c) ∈ fields → (name, d) ∈ others → BuildsAlike c d)
    (path : String) :
    Option.Rel ChildrenReordered (properties .builtin path fields).toOption
      (properties .builtin path others).toOption := by
  have hok : (∃ ps, properties .builtin path fields = .ok ps) ↔
      ∃ qs, properties .builtin path others = .ok qs := by
    rw [properties_ok_iff, properties_ok_iff]
    constructor
    · intro hall name d hd
      obtain ⟨c, hc⟩ := Assoc.exists_of_perm names.symm hd
      exact (rel_ok_iff (inside name c d hc hd _)).mp (hall name c hc)
    · intro hall name c hc
      obtain ⟨d, hd⟩ := Assoc.exists_of_perm names hc
      exact (rel_ok_iff (inside name c d hc hd _)).mpr (hall name d hd)
  simp only [rel_iff, toOption_eq_some_iff]
  refine ⟨?_, fun qs hqs => hok.mpr ⟨qs, hqs⟩⟩
  intro ps hps
  obtain ⟨qs, hqs⟩ := hok.mp ⟨ps, hps⟩
  refine ⟨qs, hqs, ?_, ?_⟩
  · rw [names_of_properties hps, names_of_properties hqs]
    exact names
  · intro _ name p q hp hq
    obtain ⟨c, hc, hcp⟩ := exists_of_mem_children hps hp
    obtain ⟨d, hd, hdq⟩ := exists_of_mem_children hqs hq
    exact rel_of_ok (inside name c d hc hd _) hcp hdq

theorem ChildrenReordered.self {r : Registry} (hr : r.WellNamed)
    (hok : properties r path fields = .ok ps) : ChildrenReordered ps ps where
  names := .refl _
  inside := by
    intro distinct name p q hp hq
    obtain rfl := Assoc.eq_of_mem distinct hp hq
    obtain ⟨_, _, hbuilt⟩ := exists_of_mem_children hok hp
    exact (wellNamed_of_property hr hbuilt).reordered_self

/-- A hash without properties takes them in any order. -/
theorem insertAll_reordered {start : HashSchema Property} (hstart : start.properties = [])
    (h : ChildrenReordered ps qs) :
    Option.Rel (fun g h => Property.Reordered (.hash g) (.hash h))
      ((AttemptT.after? (ps.forM fun entry => HashBuilder.insert (m := Id) entry.1 entry.2)
        start).map (·.2))
      ((AttemptT.after? (qs.forM fun entry => HashBuilder.insert (m := Id) entry.1 entry.2)
        start).map (·.2)) := by
  simp only [rel_iff, HashBuilder.inserted_eq_some_iff hstart]
  constructor
  · rintro g ⟨hblank, hnodup, rfl⟩
    refine ⟨{ start with properties := qs }, ⟨?_, h.names.nodup_iff.mp hnodup, rfl⟩, ?_⟩
    · intro name hname
      exact hblank name (h.names.mem_iff.mpr hname)
    · exact .hash rfl rfl rfl hnodup h.names (h.inside hnodup)
  · rintro g ⟨hblank, hnodup, -⟩
    refine ⟨_, ?_, h.names.nodup_iff.mpr hnodup, rfl⟩
    intro name hname
    exact hblank name (h.names.mem_iff.mp hname)

theorem elements_reordered {items others : List Json}
    (inside : ∀ i : Nat, Option.Rel BuildsAlike items[i]? others[i]?) (path : String)
    (index : Nat) :
    Option.Rel (List.Forall₂ Property.Reordered) (elements .builtin path index items).toOption
      (elements .builtin path index others).toOption := by
  induction items generalizing others index with
  | nil =>
    cases others with
    | nil => exact .some .nil
    | cons d others => cases inside 0
  | cons c items ih =>
    cases others with
    | nil => cases inside 0
    | cons d others =>
      have hrest := ih (fun i => inside (i + 1)) (index + 1)
      cases inside 0 with
      | some hcd =>
        rw [elements, elements]
        simp only [toOption_bind]
        refine rel_bind (hcd _) fun p q hpq => rel_bind hrest fun ps qs hpsqs => ?_
        exact .some (.cons hpq hpsqs)

section Parts
variable (keys : (fields.map (·.1)).Perm (others.map (·.1)))
variable (values : ∀ key v w, (key, v) ∈ fields → (key, w) ∈ others → ReorderedAt key v w)
variable (inside : ∀ c d, Child c (.object fields) → Reordered c d → BuildsAlike c d)
include keys values

theorem lookup_reordered (key : String) :
    Option.Rel (ReorderedAt key) (Assoc.lookup key fields) (Assoc.lookup key others) :=
  Assoc.rel_lookup (fun _ => keys.mem_iff) values key

include inside

theorem children_reordered (path : String) :
    Option.Rel ChildrenReordered (children .builtin path fields).toOption
      (children .builtin path others).toOption := by
  rw [children_eq, children_eq]
  rcases rel_cases (lookup_reordered keys values "properties") with
    ⟨hv, hw⟩ | ⟨v, w, hv, hw, h⟩
  · rw [hv, hw]
    exact .some ⟨.refl _, by simp⟩
  · rw [hv, hw]
    cases h with
    | same =>
      cases v with
      | null => exact .some ⟨.refl _, by simp⟩
      | object entries =>
        refine rel_self fun ps hps => ?_
        exact .self Registry.wellNamed_builtin (toOption_eq_some_iff.mp hps)
      | _ => exact .none
    | properties _ names reordered =>
      refine properties_reordered names ?_ path
      intro name c d hc hd
      exact inside c d (.property hv hc) (reordered name c d hc hd)
    | element hkey _ => exact absurd hkey (by decide)
    | positions hkey _ _ => exact absurd hkey (by decide)

theorem element_reordered (path : String) :
    Option.Rel (Option.Rel Property.Reordered) (element .builtin path fields).toOption
      (element .builtin path others).toOption := by
  rw [element_eq, element_eq]
  rcases rel_cases (lookup_reordered keys values "element") with ⟨hv, hw⟩ | ⟨v, w, hv, hw, h⟩
  · rw [hv, hw]
    exact .some .none
  · have hr : Reordered v w := by
      cases h with
      | same => exact .same
      | properties hkey _ _ => exact absurd hkey (by decide)
      | element _ hr => exact hr
      | positions hkey _ _ => exact absurd hkey (by decide)
    have hbuilt : v ≠ .null → Option.Rel (Option.Rel Property.Reordered)
        ((property .builtin (path ++ ".element") v).map some).toOption
        ((property .builtin (path ++ ".element") w).map some).toOption := by
      intro hne
      rw [toOption_map, toOption_map]
      exact rel_map (inside v w (.element hv hne) hr _) fun _ _ => .some
    rw [hv, hw]
    cases hr with
    | same =>
      cases v with
      | null => exact .some .none
      | _ => exact hbuilt (by simp)
    | node _ _ _ => exact hbuilt (by simp)

theorem positions_reordered (hkey : key ∈ ["items", "optional_items"]) (path : String) :
    Option.Rel (Option.Rel (List.Forall₂ Property.Reordered))
      (positions .builtin path key fields).toOption
      (positions .builtin path key others).toOption := by
  rw [positions_eq, positions_eq]
  rcases rel_cases (lookup_reordered keys values key) with ⟨hv, hw⟩ | ⟨v, w, hv, hw, h⟩
  · rw [hv, hw]
    exact .some .none
  · rw [hv, hw]
    cases h with
    | same =>
      cases v with
      | null => exact .some .none
      | array items =>
        rw [toOption_map]
        refine rel_map (elements_reordered (fun i => ?_) _ 0) fun _ _ => .some
        exact rel_self fun d _ => .self d
      | _ => exact .none
    | properties hp _ _ =>
      rw [hp] at hkey
      exact absurd hkey (by decide)
    | element he _ =>
      rw [he] at hkey
      exact absurd hkey (by decide)
    | positions _ length reordered =>
      rw [toOption_map, toOption_map]
      refine rel_map (elements_reordered (rel_getElem? length ?_) _ 0) fun _ _ => .some
      intro i c d hc hd
      exact inside c d (.position hkey hv (List.mem_of_getElem? hc)) (reordered i c d hc hd)

end Parts

section Nodes
variable (distinct : (fields.map (·.1)).Nodup)
variable (keys : (fields.map (·.1)).Perm (others.map (·.1)))
variable (values : ∀ key v w, (key, v) ∈ fields → (key, w) ∈ others → ReorderedAt key v w)
variable {kind : String}
include keys

theorem reject_reordered (refused : List String) :
    Node.reject refused ⟨path, kind, fields⟩ = Node.reject refused ⟨path, kind, others⟩ := by
  have hcontains : ∀ key, Assoc.contains key fields = Assoc.contains key others := by
    intro key
    rw [Bool.eq_iff_iff, Assoc.contains_iff, Assoc.contains_iff, keys.mem_iff]
  simp only [Node.reject, hcontains]

include distinct values

/-- The options are the same fields in another order. -/
theorem optionFields_reordered :
    (Node.optionFields ⟨path, kind, fields⟩).Perm (Node.optionFields ⟨path, kind, others⟩) := by
  have distinct' : (others.map (·.1)).Nodup := keys.nodup_iff.mp distinct
  have plain : ∀ key v w, structuralKeys.contains key = false → ReorderedAt key v w → v = w := by
    intro key v w hkey h
    refine h.eq fun hmem => ?_
    have hall : ∀ key ∈ ["properties", "element", "items", "optional_items"],
        structuralKeys.contains key = true := by decide
    rw [hall key hmem] at hkey
    cases hkey
  have hiff : ∀ key v, structuralKeys.contains key = false →
      ((key, v) ∈ fields ↔ (key, v) ∈ others) := by
    intro key v hkey
    constructor
    · intro hv
      obtain ⟨w, hw⟩ := Assoc.exists_of_perm keys hv
      rw [plain key v w hkey (values key v w hv hw)]
      exact hw
    · intro hw
      obtain ⟨u, hu⟩ := Assoc.exists_of_perm keys.symm hw
      rw [← plain key u v hkey (values key u v hu hw)]
      exact hu
  refine (List.perm_ext_iff_of_nodup ((Assoc.nodup_of_keys distinct).filter _)
    ((Assoc.nodup_of_keys distinct').filter _)).mpr ?_
  rintro ⟨key, v⟩
  simp only [List.mem_filter, Bool.not_eq_true']
  constructor
  · rintro ⟨hmem, hkey⟩
    exact ⟨(hiff key v hkey).mp hmem, hkey⟩
  · rintro ⟨hmem, hkey⟩
    exact ⟨(hiff key v hkey).mpr hmem, hkey⟩

theorem options_reordered {α : Type} {R : α → α → Prop} {make : Options → Option α}
    (h : Options.Orderless R make) :
    Option.Rel R ((Node.options ⟨path, kind, fields⟩).toOption.bind make)
      ((Node.options ⟨path, kind, others⟩).toOption.bind make) := by
  rw [Node.options, Node.options, located_toOption, located_toOption]
  exact h.insertAll (optionFields_reordered distinct keys values)

theorem leaf_reordered (name : String) :
    Option.Rel Property.Reordered (leaf .builtin name ⟨path, kind, fields⟩).toOption
      (leaf .builtin name ⟨path, kind, others⟩).toOption := by
  rw [leaf_toOption, leaf_toOption, reject_reordered keys]
  refine rel_bind (rel_self fun _ _ => rfl) fun _ _ (_ : () = ()) => ?_
  exact options_reordered distinct keys values (Registry.orderless_buildProperty name)

variable (inside : ∀ c d, Child c (.object fields) → Reordered c d → BuildsAlike c d)
include inside

theorem hash_reordered :
    Option.Rel (fun g h => Property.Reordered (.hash g) (.hash h))
      (hash ⟨path, kind, fields⟩ (parts .builtin path (.object fields))).toOption
      (hash ⟨path, kind, others⟩ (parts .builtin path (.object others))).toOption := by
  have hstart : Options.Orderless (fun a b => a = b ∧ a.properties = [])
      fun o => (HashSchema.ofOptions (P := Property) o).toOption :=
    HashSchema.orderless_ofOptions.of_eq fun o a ha =>
      ⟨rfl, HashSchema.properties_of_ofOptions (toOption_eq_some_iff.mp ha)⟩
  rw [hash_toOption, hash_toOption, reject_reordered keys]
  refine rel_bind (rel_self fun _ _ => rfl) fun _ _ (_ : () = ()) => ?_
  refine rel_bind (children_reordered keys values inside path) fun ps qs hpq => ?_
  simp only [hashOf, ← Option.bind_assoc]
  refine rel_bind (options_reordered distinct keys values hstart) ?_
  rintro start _ ⟨rfl, hempty⟩
  exact insertAll_reordered hempty hpq

theorem array_reordered :
    Option.Rel (fun a b => Property.Reordered (.array a) (.array b))
      (array ⟨path, kind, fields⟩ (parts .builtin path (.object fields))).toOption
      (array ⟨path, kind, others⟩ (parts .builtin path (.object others))).toOption := by
  have hstart : Options.Orderless (fun a b => a = b ∧ a.mode = .unset)
      fun o => (ArraySchema.ofOptions (P := Property) o).toOption :=
    ArraySchema.orderless_ofOptions.of_eq fun o a ha =>
      ⟨rfl, ArraySchema.mode_of_ofOptions (toOption_eq_some_iff.mp ha)⟩
  have hpositions : ∀ key ∈ ["items", "optional_items"],
      Option.Rel (Option.Rel (List.Forall₂ Property.Reordered))
        (positions .builtin path key fields).toOption
        (positions .builtin path key others).toOption :=
    fun key hkey => positions_reordered keys values inside hkey path
  rw [array_toOption, array_toOption, reject_reordered keys]
  refine rel_bind (rel_self fun _ _ => rfl) fun _ _ (_ : () = ()) => ?_
  refine rel_bind (element_reordered keys values inside path) fun element element' helement => ?_
  refine rel_bind (hpositions "items" (by simp)) fun first first' hfirst => ?_
  refine rel_bind (hpositions "optional_items" (by simp)) fun later later' hlater => ?_
  simp only [arrayOf, ← Option.bind_assoc]
  refine rel_bind (options_reordered distinct keys values hstart) ?_
  rintro start _ ⟨rfl, hunset⟩
  rw [ArrayBuilder.arraySteps_after? hunset, ArrayBuilder.arraySteps_after? hunset]
  exact rel_map (ArrayBuilder.modeOf?_reordered helement hfirst hlater) fun _ _ h => h start

end Nodes

theorem ofJson_reordered (keys : (fields.map (·.1)).Perm (others.map (·.1)))
    (values : ∀ key v w, (key, v) ∈ fields → (key, w) ∈ others → ReorderedAt key v w)
    (path : String) :
    Option.Rel (fun n m => ∃ kind, n = ⟨path, kind, fields⟩ ∧ m = ⟨path, kind, others⟩)
      (Node.ofJson path (.object fields)).toOption
      (Node.ofJson path (.object others)).toOption := by
  rw [Node.ofJson, Node.ofJson]
  rcases rel_cases (lookup_reordered keys values "type") with ⟨hv, hw⟩ | ⟨v, w, hv, hw, h⟩
  · rw [hv, hw]
    exact .none
  · obtain rfl := h.eq (by decide)
    rw [hv, hw]
    cases v with
    | string kind => exact .some ⟨kind, rfl, rfl⟩
    | _ => exact .none

/-- Induction on the definition: the parts inside are built alike, so the whole is. -/
theorem Reordered.buildsAlike (h : Reordered c d) : BuildsAlike c d := by
  induction c using induct generalizing d with
  | step c ih =>
    cases h with
    | same => exact .self _
    | @node fields others distinct keys values =>
      intro path
      rw [property_eq, property_eq, assemble, assemble, toOption_bind, toOption_bind]
      refine rel_bind (ofJson_reordered keys values path) ?_
      rintro _ _ ⟨kind, rfl, rfl⟩
      rw [toOption_bind, toOption_bind]
      refine rel_bind (rel_self fun _ _ => rfl) fun name _ (hname : name = _) => ?_
      subst hname
      have inside : ∀ c d, Child c (.object fields) → Reordered c d → BuildsAlike c d :=
        fun c d hc hr => ih c hc hr
      split
      · rw [toOption_bind_pure, toOption_bind_pure]
        exact rel_map (hash_reordered distinct keys values inside) fun _ _ hr => hr
      · split
        · rw [toOption_bind_pure, toOption_bind_pure]
          exact rel_map (array_reordered distinct keys values inside) fun _ _ hr => hr
        · exact leaf_reordered distinct keys values name

theorem Reordered.schemas (h : Reordered c d) :
    Option.Rel (fun s t : Schema => s.toProperty.Reordered t.toProperty)
      (schema .builtin c).toOption (schema .builtin d).toOption := by
  cases h with
  | same =>
    refine rel_self fun s hs => ?_
    exact (wellNamed_of_schema Registry.wellNamed_builtin
      (toOption_eq_some_iff.mp hs)).reordered_self
  | @node fields others distinct keys values =>
    have inside : ∀ c d, Child c (.object fields) → Reordered c d → BuildsAlike c d :=
      fun _ _ _ hr => hr.buildsAlike
    rw [schema, schema, toOption_bind, toOption_bind]
    refine rel_bind (ofJson_reordered keys values root) ?_
    rintro _ _ ⟨kind, rfl, rfl⟩
    rw [toOption_bind, toOption_bind]
    refine rel_bind (rel_self fun _ _ => rfl) fun name _ (hname : name = _) => ?_
    subst hname
    split
    · rw [toOption_bind_pure, toOption_bind_pure]
      exact rel_map (hash_reordered distinct keys values inside) fun _ _ hr => hr
    · split
      · rw [toOption_bind_pure, toOption_bind_pure]
        exact rel_map (array_reordered distinct keys values inside) fun _ _ hr => hr
      · exact .none

end Definition

/-- Outcomes of one kind: both documents are valid, both have errors, with the same keys at every
depth and the same messages under them, or both schemas refuse the document. -/
inductive SameOutcome : Except Fault ErrorMap → Except Fault ErrorMap → Prop where
  | valid : SameOutcome (.ok []) (.ok [])
  | invalid {m n : ErrorMap} (left : m ≠ []) (right : n ≠ []) (same : m.Reordered n) :
    SameOutcome (.ok m) (.ok n)
  | refused {e f : SchemaError} : SameOutcome (.error (.schema e)) (.error (.schema f))

theorem sameOutcome_of_rel {x y : Except Fault ErrorMap}
    (h : Option.Rel ErrorMap.Reordered x.toOption y.toOption) (hx : x ≠ .error .remainder)
    (hy : y ≠ .error .remainder) : SameOutcome x y := by
  cases x with
  | ok m =>
    obtain ⟨n, rfl⟩ := (rel_ok_iff h).mp ⟨m, rfl⟩
    have hr : m.Reordered n := rel_of_ok h rfl rfl
    have hempty := hr.isEmpty_eq
    cases m with
    | nil =>
      cases n with
      | nil => exact .valid
      | cons _ _ => cases hempty
    | cons _ _ =>
      cases n with
      | nil => cases hempty
      | cons _ _ => exact .invalid (List.cons_ne_nil _ _) (List.cons_ne_nil _ _) hr
  | error e =>
    cases y with
    | ok n =>
      obtain ⟨_, hm⟩ := (rel_ok_iff h).mpr ⟨n, rfl⟩
      cases hm
    | error f =>
      cases e with
      | remainder => exact (hx rfl).elim
      | schema _ =>
        cases f with
        | remainder => exact (hy rfl).elim
        | schema _ => exact .refused

/-- The order of keys in a definition decides nothing but the order of reports: with its keys and
those of its `properties` permuted, at any depth, it is accepted or not as before, and unless a
division overflows every document comes to the same outcome. -/
theorem key_order_orders_reports {c d : Json} (h : Definition.Reordered c d) :
    ((∃ s, Definition.schema .builtin c = .ok s) ↔ ∃ t, Definition.schema .builtin d = .ok t) ∧
    ∀ s t, Definition.schema .builtin c = .ok s → Definition.schema .builtin d = .ok t →
      ∀ document, s.validate document ≠ .error .remainder →
        t.validate document ≠ .error .remainder →
          SameOutcome (s.validate document) (t.validate document) := by
  refine ⟨rel_ok_iff h.schemas, ?_⟩
  intro s t hs ht document hleft hright
  have hr : s.toProperty.Reordered t.toProperty :=
    rel_of_ok (R := fun s t : Schema => s.toProperty.Reordered t.toProperty) h.schemas hs ht
  exact sameOutcome_of_rel (Schema.validate_reordered hr document) hleft hright

namespace Stock

def above : Validator := .comparison .greaterThan (.ofNat 3)

def even : Validator := .divisibility false (.ofNat 2)

/-- One option is spelled in such a way that its name is another one when it is normalized again. -/
def definition : Json := .object [("type", .string "hash"), ("properties", .object [
  ("count", .object [("type", .string "integer"), ("-:greaterThan", .number (.ofNat 3)),
    ("divisible_by", .number (.ofNat 2))]),
  ("label", .string "string")])]

/-- The keys are permuted, and so are those of `properties` and of the definition of a count. -/
def permuted : Json := .object [("properties", .object [
  ("label", .string "string"),
  ("count", .object [("divisible_by", .number (.ofNat 2)), ("type", .string "integer"),
    ("-:greaterThan", .number (.ofNat 3))])]), ("type", .string "hash")]

def count (validators : List Validator) : String × Property :=
  ("count", .leaf ⟨"integer", .integer, true, false, validators⟩)

def label : String × Property := ("label", .leaf ⟨"string", .string, true, false, []⟩)

theorem reordered : Definition.Reordered definition permuted := by
  refine .node (by decide) (by decide) fun key v w hv hw => ?_
  simp only [List.mem_cons, List.not_mem_nil, or_false, Prod.mk.injEq] at hv hw
  rcases hv with ⟨rfl, rfl⟩ | ⟨rfl, rfl⟩ <;> rcases hw with ⟨hkey, rfl⟩ | ⟨hkey, rfl⟩
  · exact absurd hkey (by decide)
  · exact .same
  · refine .properties rfl (by decide) fun name c d hc hd => ?_
    simp only [List.mem_cons, List.not_mem_nil, or_false, Prod.mk.injEq] at hc hd
    rcases hc with ⟨rfl, rfl⟩ | ⟨rfl, rfl⟩ <;> rcases hd with ⟨hname, rfl⟩ | ⟨hname, rfl⟩
    · exact absurd hname (by decide)
    · exact .of_perm (by decide) (List.perm_append_comm : ([_, _] ++ [_]).Perm ([_] ++ [_, _]))
    · exact .same
    · exact absurd hname (by decide)
  · exact absurd hkey (by decide)

set_option maxRecDepth 4000 in
theorem definition_schema : Definition.schema .builtin definition =
    .ok (.hash ⟨[count [above, even], label], true, true, false⟩) := rfl

set_option maxRecDepth 4000 in
theorem permuted_schema : Definition.schema .builtin permuted =
    .ok (.hash ⟨[label, count [even, above]], true, true, false⟩) := rfl

/-- Both schemas find the same wrong with a document, in another order. -/
theorem same_errors_in_either_order :
    let s : Schema := .hash ⟨[count [above, even], label], true, true, false⟩
    let t : Schema := .hash ⟨[label, count [even, above]], true, true, false⟩
    let document : Json := .object [("count", .number (.ofNat 1)), ("label", .null)]
    Definition.Reordered definition permuted ∧ Definition.schema .builtin definition = .ok s ∧
      Definition.schema .builtin permuted = .ok t ∧
      s.validate document = .ok [("count", .messages [above.message, even.message]),
        ("label", Message.nilNotAllowed.field)] ∧
      t.validate document = .ok [("label", Message.nilNotAllowed.field),
        ("count", .messages [even.message, above.message])] ∧
      SameOutcome (s.validate document) (t.validate document) := by
  intro s t document
  have hleft : s.validate document = .ok [("count", .messages [above.message, even.message]),
      ("label", Message.nilNotAllowed.field)] := rfl
  have hright : t.validate document = .ok [("label", Message.nilNotAllowed.field),
      ("count", .messages [even.message, above.message])] := rfl
  have hsame : SameOutcome (s.validate document) (t.validate document) := by
    apply (key_order_orders_reports reordered).2 s t definition_schema permuted_schema document
    · rw [hleft]
      simp
    · rw [hright]
      simp
  exact ⟨reordered, definition_schema, permuted_schema, hleft, hright, hsame⟩

end Stock

end Conform
