import Conform.Proofs.Conformance
import Conform.Proofs.Faults
import Conform.Proofs.Shapes

/-!
Reports on objects. A report tells of each declared property what is wrong with it, in the order of
the declarations, unless keys that are not declared hide everything else.
-/

namespace Conform
open Outcome

/-- Unless a hash is relaxed, it declares every key that is given. -/
def HashSchema.Declares (h : HashSchema Property) (fields : List (String × Json)) : Prop :=
  h.strict = true → ∀ key ∈ Assoc.keys fields, key ∈ Assoc.keys h.properties

/-- What a hash says of an object. -/
inductive HashReport (h : HashSchema Property) (fields : List (String × Json)) :
    Except Fault ErrorMap → Prop where
  /-- One key that is not declared hides all the rest. -/
  | undeclared {key : String} (strict : h.strict = true) (given : key ∈ Assoc.keys fields)
    (unknown : key ∉ Assoc.keys h.properties) :
    HashReport h fields (.ok [("base", .messages ["has properties not defined in schema"])])
  /-- The properties of which something is wrong, as they are declared, each with just that. -/
  | entries (declared : h.Declares fields)
    (judged : ∀ entry ∈ h.properties, ∃ e, Property.fieldVerdict fields entry = .ok e) :
    HashReport h fields (.ok (h.properties.filterMap (Property.fieldEntry fields)))
  /-- The first value that cannot be judged ends the report. -/
  | fault {f : Fault} (declared : h.Declares fields)
    (first : FirstAt (fun entry => ∃ e, Property.fieldVerdict fields entry = .ok e)
      (fun entry => ∃ v, Assoc.lookup entry.1 fields = some v ∧ entry.2.check v = .error f)
      h.properties) :
    HashReport h fields (.error f)

namespace Property
variable {h : HashSchema Property} {fields others : List (String × Json)}
  {ps : List (String × Property)} {m : ErrorMap} {f : Fault}

theorem undeclared_eq_true_iff : undeclared h fields = true ↔
    h.strict = true ∧ ∃ key ∈ Assoc.keys fields, key ∉ Assoc.keys h.properties := by
  rw [← Bool.not_eq_false, undeclared_eq_false_iff]
  simp [Assoc.keys]

theorem undeclared_eq_false_iff_declares : undeclared h fields = false ↔ h.Declares fields := by
  rw [undeclared_eq_false_iff]
  constructor
  · intro declared strict key hkey
    obtain ⟨field, hfield, rfl⟩ := List.mem_map.mp hkey
    exact declared strict field hfield
  · exact fun declared strict _ hfield => declared strict _ (List.mem_map_of_mem hfield)

theorem checkFields_eq_error_iff {errors : ErrorMap} :
    checkFields fields ps errors = .error f ↔
      FirstAt (fun entry => ∃ e, fieldVerdict fields entry = .ok e)
        (fun entry => ∃ v, Assoc.lookup entry.1 fields = some v ∧ entry.2.check v = .error f)
        ps := by
  have fails : ∀ entry : String × Property, fieldVerdict fields entry = .error f ↔
      ∃ v, Assoc.lookup entry.1 fields = some v ∧ entry.2.check v = .error f :=
    fun _ => fieldVerdict_eq_error_iff
  rw [checkFields_eq_foldlM, foldlM_eq_error_iff]
  simp only [fails]

/-- Names that differ replace nothing, so every entry is there in its place. -/
theorem checkFields_eq_filterMap (distinct : (ps.map (·.1)).Nodup)
    (judged : ∀ entry ∈ ps, ∃ e, fieldVerdict fields entry = .ok e) :
    checkFields fields ps [] = .ok (ps.filterMap (fieldEntry fields)) := by
  have fresh : Assoc.Fresh (ErrorMap.empty.map (·.1)) (ps.map (·.1)) :=
    Assoc.fresh_iff_nodup.mpr distinct
  obtain ⟨m, hm⟩ : ∃ m, checkFields fields ps [] = .ok m := checkFields_ok_iff.mpr judged
  rw [hm, checkFields_eq_append fresh hm]
  rfl

theorem reports_hashErrors (distinct : (h.properties.map (·.1)).Nodup) :
    HashReport h fields (hashErrors h (.object fields)) := by
  rw [hashErrors_object]
  cases hu : undeclared h fields with
  | true =>
    obtain ⟨strict, key, given, unknown⟩ := undeclared_eq_true_iff.mp hu
    exact .undeclared strict given unknown
  | false =>
    have declared := undeclared_eq_false_iff_declares.mp hu
    cases hc : checkFields fields h.properties [] with
    | ok m =>
      have judged := checkFields_ok_iff.mp ⟨m, hc⟩
      rw [checkFields_eq_filterMap distinct judged] at hc
      cases hc
      exact .entries declared judged
    | error f => exact .fault declared (checkFields_eq_error_iff.mp hc)

theorem hashErrors_of_reports {o : Except Fault ErrorMap}
    (distinct : (h.properties.map (·.1)).Nodup) (report : HashReport h fields o) :
    hashErrors h (.object fields) = o := by
  rw [hashErrors_object]
  cases report with
  | undeclared strict given unknown =>
    exact if_pos (undeclared_eq_true_iff.mpr ⟨strict, _, given, unknown⟩)
  | entries declared judged =>
    rw [undeclared_eq_false_iff_declares.mpr declared]
    exact checkFields_eq_filterMap distinct judged
  | fault declared first =>
    rw [undeclared_eq_false_iff_declares.mpr declared]
    exact checkFields_eq_error_iff.mpr first

/-- A relaxed hash looks up what it declares and nothing else. -/
theorem hashErrors_eq_of_relaxed (relaxed : h.strict = false)
    (same : ∀ name ∈ Assoc.keys h.properties,
      Assoc.lookup name others = Assoc.lookup name fields) :
    hashErrors h (.object others) = hashErrors h (.object fields) := by
  have shown : ∀ given, undeclared h given = false := by
    intro given
    rw [undeclared, relaxed, Bool.false_and]
  rw [hashErrors_object, hashErrors_object, shown, shown]
  apply checkFields_congr
  intro entry hentry
  rw [fieldVerdict, fieldVerdict, same entry.1 (List.mem_map_of_mem hentry)]

end Property

/-- The report on an object is exact. In strict mode a key that is not declared is all it tells of.
Otherwise it lists the properties with which something is wrong, as they are declared and each with
just what is wrong there, or it ends in the fault of the first property that comes to one. What a
relaxed hash does not declare makes no difference. -/
theorem hash_reports_are_exact {h : HashSchema Property} (had : (Property.hash h).Obtainable)
    (fields : List (String × Json)) :
    (∀ o, Property.hashErrors h (.object fields) = o ↔ HashReport h fields o) ∧
    (h.strict = false → ∀ others : List (String × Json),
      (∀ name ∈ Assoc.keys h.properties, Assoc.lookup name others = Assoc.lookup name fields) →
        Property.hashErrors h (.object others) = Property.hashErrors h (.object fields)) := by
  have distinct : (h.properties.map (·.1)).Nodup := by
    cases had.wellFormed with
    | hash named _ => exact named.distinct
  refine ⟨fun o => ⟨?_, Property.hashErrors_of_reports distinct⟩, ?_⟩
  · rintro rfl
    exact Property.reports_hashErrors distinct
  · intro relaxed others same
    exact Property.hashErrors_eq_of_relaxed relaxed same

/-- A profile that may have more to it than is declared. -/
def profileDefinition : Json := .object [("type", .string "hash"), ("strict_mode", .bool false),
  ("properties", .object [("name", .string "string"),
    ("age", .object [("type", .string "integer"), ("required", .bool false)]),
    ("base", .object [("type", .string "array"), ("element", .string "string")])])]

/-- Of three properties one is missing and one, by the name `base`, has a wrong element. Keys that
are not declared and the order of the others make no difference. -/
theorem profile_report_is_exact :
    let leaf (kind : String) (test : TypeTest) (required : Bool) : Property :=
      .leaf ⟨kind, test, required, false, []⟩
    let h : HashSchema Property := ⟨[("name", leaf "string" .string true),
      ("age", leaf "integer" .integer false),
      ("base", .array ⟨.single (leaf "string" .string true), false, none, none, true, false⟩)],
      false, true, false⟩
    let fields : List (String × Json) := [("base", .array [.string "a", .bool true]),
      ("age", .number (.ofNat 7))]
    let others : List (String × Json) := [("height", .null), ("age", .number (.ofNat 7)),
      ("base", .array [.string "a", .bool true])]
    let m : ErrorMap := [("name", .messages ["required"]),
      ("base", .nested [("1", .messages ["wrong type"])])]
    (Property.hash h).Obtainable ∧ HashReport h fields (.ok m) ∧ h.strict = false ∧
      (∀ name ∈ Assoc.keys h.properties, Assoc.lookup name others = Assoc.lookup name fields) ∧
      Property.hashErrors h (.object others) = .ok m := by
  intro leaf h fields others m
  have built : Definition.property .builtin "$" profileDefinition = .ok (.hash h) := rfl
  have had : (Property.hash h).Obtainable :=
    .described (fun _ _ _ => Property.obtainable_of_builtin) built
  have found : Property.hashErrors h (.object fields) = .ok m := rfl
  have same : ∀ name ∈ Assoc.keys h.properties,
      Assoc.lookup name others = Assoc.lookup name fields := by
    intro name hname
    simp only [h, Assoc.keys, List.map_cons, List.map_nil, List.mem_cons, List.not_mem_nil,
      or_false] at hname
    rcases hname with rfl | rfl | rfl <;> rfl
  obtain ⟨exact_report, relaxed⟩ := hash_reports_are_exact had fields
  exact ⟨had, (exact_report _).mp found, rfl, same, (relaxed rfl others same).trans found⟩

end Conform
