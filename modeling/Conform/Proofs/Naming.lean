import Conform.Proofs.Leaves

/-!
Names of properties. A builder refuses a name that is taken, so the properties of a hash never share
one.
-/

namespace Conform
open Outcome

/-- The properties of every hash have different names. -/
inductive Property.WellNamed : Property → Prop where
  | leaf {l : Leaf} : WellNamed (.leaf l)
  | hash {h : HashSchema Property} (distinct : (h.properties.map (·.1)).Nodup)
    (inside : ∀ name p, (name, p) ∈ h.properties → WellNamed p) : WellNamed (.hash h)
  | array {a : ArraySchema Property} (inside : ∀ p ∈ a.mode.properties, WellNamed p) :
    WellNamed (.array a)

namespace HashBuilder

theorem not_mem_of_ensureAvailable {name : String} {h : HashSchema Property}
    (ha : ensureAvailable name h = .ok ()) : name ∉ h.properties.map (·.1) := by
  unfold ensureAvailable at ha
  split at ha
  · cases ha
  · split at ha
    · cases ha
    · rename_i hc
      exact mt Assoc.contains_iff.mpr hc

theorem insertAll_distinct {children : List (String × Property)} {h t : HashSchema Property}
    (start : (h.properties.map (·.1)).Nodup)
    (ht : AttemptT.after? (children.forM fun entry => insert (m := Id) entry.1 entry.2) h =
      some ((), t)) : (t.properties.map (·.1)).Nodup := by
  induction children generalizing h with
  | nil =>
    cases ht
    exact start
  | cons entry rest ih =>
    rw [List.forM_eq_forM] at ht ih
    rw [List.forM_cons, AttemptT.after?_bind, insert_after?, Option.bind_eq_some_iff] at ht
    obtain ⟨⟨_, u⟩, hu, ht⟩ := ht
    obtain ⟨_, ha, heq⟩ := Option.map_eq_some_iff.mp hu
    cases heq
    have fresh := not_mem_of_ensureAvailable (toOption_eq_some_iff.mp ha)
    exact ih (Assoc.nodup_append start fresh) ht

end HashBuilder

/-- The kinds of a registry make well-named properties. -/
def Registry.WellNamed (r : Registry) : Prop :=
  ∀ kind options p, r.buildProperty kind options = .ok p → p.WellNamed

theorem Registry.wellNamed_builtin : builtin.WellNamed := by
  intro kind options p h
  cases builtinMakes_of_buildProperty h with
  | leaf _ made =>
    obtain ⟨l, _, heq⟩ := bind_eq_ok_iff.mp made
    cases heq
    exact .leaf
  | array made =>
    refine .array ?_
    rw [ArraySchema.mode_of_ofOptions made]
    simp [ArrayMode.properties]
  | hash made => refine .hash ?_ ?_ <;> rw [HashSchema.properties_of_ofOptions made] <;> simp

namespace Definition
variable {r : Registry} {path : String} {d : Json} {p : Property} {s : Schema} {n : Node}
  {parts : Parts}

theorem distinct_of_hash {h : HashSchema Property} (hok : hash n parts = .ok h) :
    (h.properties.map (·.1)).Nodup := by
  obtain ⟨children, options, start, -, -, -, hstart, hsteps⟩ := hash_eq_ok hok
  obtain ⟨⟨_, t⟩, ht, rfl⟩ := Option.map_eq_some_iff.mp hsteps
  refine HashBuilder.insertAll_distinct ?_ ht
  rw [HashSchema.properties_of_ofOptions hstart]
  exact List.nodup_nil

/-- Whatever a definition builds is well named. -/
theorem wellNamed_of_property (hr : r.WellNamed) (h : property r path d = .ok p) :
    p.WellNamed :=
  property_induct hr (fun hok inside => .hash (distinct_of_hash hok) inside)
    (fun _ inside => .array inside) h

theorem wellNamed_of_schema (hr : r.WellNamed) (h : schema r d = .ok s) :
    s.toProperty.WellNamed := wellNamed_of_property hr (property_of_schema h)

end Definition

end Conform
