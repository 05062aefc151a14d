import Conform.Proofs.DefinitionOrder
import Conform.Proofs.Programs

/-!
Positions in definitions. Every definition inside another is built at a path that says how it is
reached, and the parts of a definition are built, or fail, as the definitions inside are and do.
-/

namespace Conform.Definition
open Outcome

/-- A step from a definition to one that stands directly inside it. -/
inductive Step where
  | property (name : String)
  | element
  | item (optional : Bool) (index : Nat)
deriving DecidableEq, Repr

/-- The steps from a definition to one inside. -/
abbrev Position := List Step

/-- The key of the positions that have to be there, and of those that may be missing. -/
def itemsKey (optional : Bool) : String := if optional then "optional_items" else "items"

def Step.written : Step → String
  | property name => ".properties." ++ name
  | element => ".element"
  | item optional index => "." ++ itemsKey optional ++ "[" ++ toString index ++ "]"

def Position.written : Position → String
  | [] => ""
  | step :: rest => step.written ++ written rest

/-- What a step leads to. -/
inductive Leads : Step → Json → Json → Prop where
  | property {fields entries : List (String × Json)} {name : String} {c : Json}
    (h : Assoc.lookup "properties" fields = some (.object entries))
    (hc : (name, c) ∈ entries) : Leads (.property name) (.object fields) c
  | element {fields : List (String × Json)} {c : Json}
    (h : Assoc.lookup "element" fields = some c) (hc : c ≠ .null) :
    Leads .element (.object fields) c
  | item {fields : List (String × Json)} {optional : Bool} {items : List Json} {index : Nat}
    {c : Json} (h : Assoc.lookup (itemsKey optional) fields = some (.array items))
    (hc : items[index]? = some c) : Leads (.item optional index) (.object fields) c

/-- What is found at a position. -/
inductive Found : Position → Json → Json → Prop where
  | here {d : Json} : Found [] d d
  | inside {step : Step} {rest : Position} {d c b : Json} (first : Leads step d c)
    (more : Found rest c b) : Found (step :: rest) d b

variable {r : Registry} {path name : String} {d c : Json} {step : Step} {optional : Bool}
  {index : Nat} {fields : List (String × Json)} {e : SchemaError}

theorem itemsKey_mem (optional : Bool) : itemsKey optional ∈ ["items", "optional_items"] := by
  cases optional <;> decide

theorem Leads.child (h : Leads step d c) : Child c d := by
  cases h with
  | property h hc => exact .property h hc
  | element h hc => exact .element h hc
  | item h hc => exact .position (itemsKey_mem _) h (List.mem_of_getElem? hc)

/-- A definition directly inside fails, at the path of its position. -/
def FailsInside (r : Registry) (path : String) (d : Json) (e : SchemaError) : Prop :=
  ∃ step c, Leads step d c ∧ property r (path ++ step.written) c = .error e

/-- A fault that is tied to a path. -/
def At (path : String) (e : SchemaError) : Prop := ∃ fault, e = .invalidDefinition path fault

theorem at_of_fail {α : Type} {fault : DefinitionFault}
    (h : (fail path fault : Except SchemaError α) = .error e) : At path e := by
  cases h
  exact ⟨fault, rfl⟩

theorem written_item (path : String) (optional : Bool) (index : Nat) :
    path ++ (Step.item optional index).written =
      path ++ "." ++ itemsKey optional ++ "[" ++ toString index ++ "]" := by
  simp only [Step.written, String.append_assoc]

theorem children_error (h : children r path fields = .error e) :
    (At path e ∧ ∀ kind, ¬ Shaped kind fields) ∨ FailsInside r path (.object fields) e := by
  rw [children_eq] at h
  split at h
  · cases h
  · cases h
  · rename_i entries hl
    rw [properties_eq_mapM, mapM_eq_error_iff] at h
    obtain ⟨⟨name, c⟩, hc, hfail⟩ := h.exists_mem
    rw [map_eq_error_iff, String.append_assoc] at hfail
    exact .inr ⟨.property name, c, .property hl hc, hfail⟩
  · rename_i v hnull hobject hl
    refine .inl ⟨at_of_fail h, fun kind shaped => ?_⟩
    obtain ⟨-, rfl | ⟨ps, rfl⟩⟩ := shaped.properties v hl
    · exact hnull rfl
    · exact hobject ps rfl

theorem element_error (h : element r path fields = .error e) :
    FailsInside r path (.object fields) e := by
  rw [element_eq] at h
  split at h
  · cases h
  · cases h
  · rename_i c hne hl
    exact ⟨.element, c, .element hl hne, map_eq_error_iff.mp h⟩

theorem items_error (optional : Bool) (h : positions r path (itemsKey optional) fields = .error e) :
    (At path e ∧ ∀ kind, ¬ Shaped kind fields) ∨ FailsInside r path (.object fields) e := by
  rw [positions_eq] at h
  split at h
  · cases h
  · cases h
  · rename_i items hl
    rw [map_eq_error_iff, elements_eq_mapM, mapM_eq_error_iff] at h
    obtain ⟨⟨c, index⟩, hc, hfail⟩ := h.exists_mem
    have hat : items[index]? = some c := by simpa using List.mem_zipIdx_iff_getElem?.mp hc
    rw [← written_item] at hfail
    exact .inr ⟨.item optional index, c, .item hl hat, hfail⟩
  · rename_i v hnull harray hl
    refine .inl ⟨at_of_fail h, fun kind shaped => ?_⟩
    obtain ⟨-, rfl | ⟨items, rfl⟩⟩ := shaped.positions _ (itemsKey_mem optional) v hl
    · exact hnull rfl
    · exact harray items rfl

/-- A property of the list is built for each definition. -/
theorem children_built_at {ps : List (String × Property)} (h : children r path fields = .ok ps)
    (leads : Leads (.property name) (.object fields) c) :
    ∃ p, (name, p) ∈ ps ∧ property r (path ++ (Step.property name).written) c = .ok p := by
  cases leads with
  | @property _ entries _ _ hl hc =>
    rw [children_eq, hl] at h
    have hall : properties r path entries = .ok ps := h
    rw [properties_eq_mapM] at hall
    obtain ⟨i, hi⟩ := List.mem_iff_getElem?.mp hc
    obtain ⟨_, hp, hentry⟩ := getElem?_of_mapM hall hi
    obtain ⟨p, hbuilt, rfl⟩ := map_eq_ok_iff.mp hentry
    rw [String.append_assoc] at hbuilt
    exact ⟨p, List.mem_of_getElem? hp, hbuilt⟩

theorem element_built_at {o : Option Property} (h : element r path fields = .ok o)
    (leads : Leads .element (.object fields) c) :
    ∃ p, o = some p ∧ property r (path ++ Step.element.written) c = .ok p := by
  cases leads with
  | element hl hc =>
    rw [element_of_lookup hl hc] at h
    obtain ⟨p, hp, rfl⟩ := map_eq_ok_iff.mp h
    exact ⟨p, rfl, hp⟩

theorem items_built_at (optional : Bool) {o : Option (List Property)}
    (h : positions r path (itemsKey optional) fields = .ok o)
    (leads : Leads (.item optional index) (.object fields) c) :
    ∃ ps p, o = some ps ∧ ps[index]? = some p ∧
      property r (path ++ (Step.item optional index).written) c = .ok p := by
  cases leads with
  | @item _ _ items _ _ hl hc =>
    rw [positions_eq, hl] at h
    obtain ⟨ps, hps, rfl⟩ := map_eq_ok_iff.mp h
    have hat : (items.zipIdx 0)[index]? = some (c, index) := by
      rw [List.getElem?_zipIdx, hc]
      simp
    rw [elements_eq_mapM] at hps
    obtain ⟨p, hp, hbuilt⟩ := getElem?_of_mapM hps hat
    rw [← written_item] at hbuilt
    exact ⟨ps, p, rfl, hp, hbuilt⟩

end Conform.Definition
