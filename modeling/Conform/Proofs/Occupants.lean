import Conform.Proofs.Positions

/-!
What a schema holds at a position. A definition inside an accepted one builds, at its own path, the
property that the schema holds at the same position.
-/

namespace Conform
open Outcome
open Definition (Step Position)

/-- What a step leads to in a property. -/
inductive Property.HoldsAt : Step → Property → Property → Prop where
  | property {h : HashSchema Property} {name : String} {q : Property}
    (hq : (name, q) ∈ h.properties) : HoldsAt (.property name) (.hash h) q
  | element {a : ArraySchema Property} {q : Property} (hmode : a.mode = .single q) :
    HoldsAt .element (.array a) q
  | item {a : ArraySchema Property} {required optional : List Property} {later : Bool}
    {index : Nat} {q : Property} (hmode : a.mode = .tuple required optional)
    (hq : (if later then optional else required)[index]? = some q) :
    HoldsAt (.item later index) (.array a) q

/-- What a property holds at a position. -/
inductive Property.Holds : Position → Property → Property → Prop where
  | here {p : Property} : Holds [] p p
  | inside {step : Step} {rest : Position} {p q o : Property} (first : HoldsAt step p q)
    (more : Holds rest q o) : Holds (step :: rest) p o

namespace Definition

variable {r : Registry} {path : String} {d c : Json} {step : Step} {position : Position}
  {n : Node} {fields : List (String × Json)} {keys : List String} {p : Property} {s : Schema}

/-- The key that a step goes through. -/
def Step.key : Step → String
  | property _ => "properties"
  | element => "element"
  | item optional _ => itemsKey optional

theorem Step.key_mem (step : Step) :
    step.key ∈ ["properties", "element", "items", "optional_items"] := by
  cases step with
  | property name => exact .head _
  | element => exact .tail _ (.head _)
  | item optional index => exact .tail _ (.tail _ (itemsKey_mem optional))

/-- A key is given a value other than null. -/
def Given (key : String) (fields : List (String × Json)) : Prop :=
  ∃ v, Assoc.lookup key fields = some v ∧ v ≠ .null

theorem Leads.given (leads : Leads step (.object fields) c) : Given step.key fields := by
  cases leads with
  | property h _ => exact ⟨_, h, nofun⟩
  | element h hc => exact ⟨_, h, hc⟩
  | item h _ => exact ⟨_, h, nofun⟩

theorem key_not_refused (hn : Node.ofJson path d = .ok n) (hreject : n.reject keys = .ok ())
    (leads : Leads step d c) : step.key ∉ keys := by
  obtain ⟨fields, rfl⟩ : ∃ fields, d = .object fields := by
    cases leads <;> exact ⟨_, rfl⟩
  intro hkey
  have hnone := Node.reject_eq_ok_iff.mp hreject _ hkey
  obtain ⟨_, hgiven, -⟩ := leads.given
  rw [fields_of_ofJson hn, hgiven] at hnone
  cases hnone

/-- A list of positions is built from whatever is given that is not null. -/
theorem exists_of_given {key : String} {o : Option (List Property)}
    (h : positions r path key fields = .ok o) (hgiven : Given key fields) : ∃ ps, o = some ps := by
  obtain ⟨v, hv, hne⟩ := hgiven
  rw [positions_eq, hv] at h
  cases v with
  | null => exact (hne rfl).elim
  | array =>
    obtain ⟨ps, -, rfl⟩ := map_eq_ok_iff.mp h
    exact ⟨ps, rfl⟩
  | _ => cases h

theorem element_of_modeOf {q : Property} {first later : Option (List Property)}
    {mode : ArrayMode Property} (h : ArrayBuilder.modeOf? (some q) first later = some mode) :
    mode = .single q ∧ first = none ∧ later = none := by
  cases first <;> cases later <;> cases h
  exact ⟨rfl, rfl, rfl⟩

theorem items_of_modeOf {element : Option Property} {first later : Option (List Property)}
    {mode : ArrayMode Property} (h : ArrayBuilder.modeOf? element first later = some mode)
    (hlists : first ≠ none ∨ later ≠ none) : mode = .tuple (first.getD []) (later.getD []) := by
  unfold ArrayBuilder.modeOf? at h
  split at h <;> cases h <;> first | rfl | simp at hlists

theorem children_of_hash {h : HashSchema Property} {built : Parts} (hok : hash n built = .ok h) :
    built.children = .ok h.properties := by
  obtain ⟨children, _, start, -, hchildren, -, hstart, hsteps⟩ := hash_eq_ok hok
  have none := HashSchema.properties_of_ofOptions hstart
  obtain ⟨-, -, rfl⟩ := (HashBuilder.inserted_eq_some_iff none).mp hsteps
  exact hchildren

theorem hash_holds {h : HashSchema Property} (hn : Node.ofJson path d = .ok n)
    (hok : hash n (parts r path d) = .ok h) (leads : Leads step d c) :
    ∃ q, Property.HoldsAt step (.hash h) q ∧ property r (path ++ step.written) c = .ok q := by
  obtain ⟨_, _, _, hreject, -⟩ := hash_eq_ok hok
  have kept := key_not_refused hn hreject leads
  cases step with
  | property name =>
    cases leads with
    | property hl hc =>
      obtain ⟨q, hq, hbuilt⟩ := children_built_at (children_of_hash hok) (.property hl hc)
      exact ⟨q, .property hq, hbuilt⟩
  | element => exact (kept (.head _)).elim
  | item optional index => exact (kept (.tail _ (itemsKey_mem optional))).elim

theorem array_holds {a : ArraySchema Property} (hn : Node.ofJson path d = .ok n)
    (hok : array n (parts r path d) = .ok a) (leads : Leads step d c) :
    ∃ q, Property.HoldsAt step (.array a) q ∧ property r (path ++ step.written) c = .ok q := by
  obtain ⟨_, _, _, _, _, hreject, -⟩ := array_eq_ok hok
  have kept := key_not_refused hn hreject leads
  obtain ⟨element, first, later, helement, hfirst, hlater, hmode⟩ := mode_of_array hok
  cases leads with
  | property => exact (kept (.head _)).elim
  | element hl hc =>
    obtain ⟨q, rfl, hbuilt⟩ := element_built_at helement (.element hl hc)
    exact ⟨q, .element (element_of_modeOf hmode).1, hbuilt⟩
  | @item _ optional _ _ _ hl hc =>
    cases optional with
    | false =>
      obtain ⟨ps, q, rfl, hq, hbuilt⟩ := items_built_at false hfirst (.item hl hc)
      exact ⟨q, .item (items_of_modeOf hmode (.inl nofun)) hq, hbuilt⟩
    | true =>
      obtain ⟨ps, q, rfl, hq, hbuilt⟩ := items_built_at true hlater (.item hl hc)
      exact ⟨q, .item (items_of_modeOf hmode (.inr nofun)) hq, hbuilt⟩

/-- What a definition builds holds what the definitions directly inside build. -/
theorem holdsAt_of_leads (h : property r path d = .ok p) (leads : Leads step d c) :
    ∃ q, p.HoldsAt step q ∧ property r (path ++ step.written) c = .ok q := by
  cases builds_of_property h with
  | hash hn hok => exact hash_holds hn hok leads
  | array hn hok => exact array_holds hn hok leads
  | leaf hn _ _ _ hok =>
    -- Every key that leads inside is refused beside the options of a leaf.
    obtain ⟨_, hreject, -⟩ := leaf_eq_ok hok
    exact (key_not_refused hn hreject leads step.key_mem).elim

theorem holds_of_found (h : property r path d = .ok p) (found : Found position d c) :
    ∃ q, p.Holds position q ∧ property r (path ++ position.written) c = .ok q := by
  induction found generalizing path p with
  | here =>
    refine ⟨p, .here, ?_⟩
    rw [Position.written, String.append_empty]
    exact h
  | inside first _ ih =>
    obtain ⟨q, holds, hq⟩ := holdsAt_of_leads h first
    obtain ⟨o, rest, ho⟩ := ih hq
    refine ⟨o, .inside holds rest, ?_⟩
    rw [Position.written, ← String.append_assoc]
    exact ho

end Definition

end Conform
