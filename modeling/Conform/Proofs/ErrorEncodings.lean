import Conform.Proofs.ErrorTrees

/-!
Error maps as JSON. Storing the entries of a recorded map one by one gives the same object as
writing them down in order, and the map can be read back from it.
-/

namespace Conform

variable {e : FieldErrors} {m n : ErrorMap} {key : String}

theorem FieldErrors.keys_encodeEntries (m : ErrorMap) :
    (encodeEntries m).map (·.1) = m.map (·.1) := by
  induction m with
  | nil => rfl
  | cons entry m ih =>
    obtain ⟨key, e⟩ := entry
    rw [encodeEntries, List.map_cons, List.map_cons, ih]

/-- Entries under new keys are stored behind those that are there. -/
theorem FieldErrors.storeEntries_of_distinct {fields : List (String × Json)}
    (inside : ∀ key e, (key, e) ∈ m → e.toJson = e.encode)
    (distinct : (fields.map (·.1) ++ m.map (·.1)).Nodup) :
    storeEntries fields m = fields ++ encodeEntries m := by
  induction m generalizing fields with
  | nil => rw [storeEntries, encodeEntries, List.append_nil]
  | cons entry m ih =>
    obtain ⟨key, e⟩ := entry
    have hfresh : key ∉ fields.map (·.1) := by
      intro hmem
      exact (List.nodup_append.mp distinct).2.2 key hmem key List.mem_cons_self rfl
    have hkeys : ((fields ++ [(key, e.encode)]).map (·.1) ++ m.map (·.1)).Nodup := by
      simpa using distinct
    rw [storeEntries, inside key e List.mem_cons_self, Assoc.store_of_not_mem hfresh,
      ih (fun k d hd => inside k d (List.mem_cons_of_mem _ hd)) hkeys, encodeEntries,
      List.append_assoc]
    rfl

theorem FieldErrors.toJson_nested (inside : ∀ key e, (key, e) ∈ m → e.toJson = e.encode)
    (distinct : (m.map (·.1)).Nodup) : (nested m).toJson = (nested m).encode := by
  have hkeys : (([] : List (String × Json)).map (·.1) ++ m.map (·.1)).Nodup := distinct
  rw [toJson, encode, storeEntries_of_distinct inside hkeys, List.nil_append]

theorem FieldErrors.Solid.toJson_eq_encode (h : e.Solid) : e.toJson = e.encode := by
  induction h with
  | messages => rw [toJson, encode]
  | nested _ distinct _ ih => exact toJson_nested ih distinct

theorem ErrorMap.Solid.toJson_eq_encode (h : m.Solid) : m.toJson = m.encode :=
  FieldErrors.toJson_nested (fun key e he => (h.inside key e he).toJson_eq_encode) h.distinct

def Json.string? : Json → Option String
  | .string s => some s
  | _ => none

mutual

/-- Reads an array as a list of messages and an object as the entries of a container. -/
def FieldErrors.ofJson? : Json → Option FieldErrors
  | .array items => (items.mapM Json.string?).map .messages
  | .object fields => (entriesOf? fields).map .nested
  | _ => none

def entriesOf? : List (String × Json) → Option ErrorMap
  | [] => some []
  | (key, v) :: rest => do
    let e ← FieldErrors.ofJson? v
    let m ← entriesOf? rest
    return (key, e) :: m

end

def ErrorMap.ofJson? (v : Json) : Option ErrorMap :=
  (FieldErrors.ofJson? v).bind FieldErrors.nested?

theorem mapM_string? (ms : List String) :
    (ms.map Json.string).mapM Json.string? = some ms := by
  induction ms with
  | nil => rfl
  | cons message ms ih => rw [List.map_cons, List.mapM_cons, ih]; rfl

theorem entriesOf?_encodeEntries
    (inside : ∀ key e, (key, e) ∈ m → FieldErrors.ofJson? e.encode = some e) :
    entriesOf? (FieldErrors.encodeEntries m) = some m := by
  induction m with
  | nil => rfl
  | cons entry m ih =>
    obtain ⟨key, e⟩ := entry
    rw [FieldErrors.encodeEntries, entriesOf?, inside key e List.mem_cons_self,
      ih fun k d hd => inside k d (List.mem_cons_of_mem _ hd)]
    rfl

theorem FieldErrors.ofJson?_encode (e : FieldErrors) : ofJson? e.encode = some e := by
  induction e using FieldErrors.induct with
  | messages ms => rw [encode, ofJson?, mapM_string?]; rfl
  | nested m ih => rw [encode, ofJson?, entriesOf?_encodeEntries ih]; rfl

theorem ErrorMap.ofJson?_encode (m : ErrorMap) : ofJson? m.encode = some m := by
  rw [ofJson?, encode, FieldErrors.ofJson?_encode]
  rfl

/-- Both encodings of a recorded map are one object, with the keys of the map in their order, and
the map is read back from it. So different maps have different encodings. All this holds of whatever
a check finds. -/
theorem recorded_errors_read_back :
    (∀ m : ErrorMap, m.Recorded → m.toJson = m.encode ∧
      (∃ fields, m.toJson = .object fields ∧ fields.map (·.1) = m.map (·.1)) ∧
      ErrorMap.ofJson? m.toJson = some m) ∧
    (∀ m n : ErrorMap, m.Recorded → n.Recorded → m.toJson = n.toJson → m = n) ∧
    ∀ (s : Schema) (document : Json) (m : ErrorMap), s.validate document = .ok m →
      m.toJson = m.encode ∧ ErrorMap.ofJson? m.toJson = some m := by
  have same {m : ErrorMap} (h : m.Recorded) : m.toJson = m.encode := h.solid.toJson_eq_encode
  have back {m : ErrorMap} (h : m.Recorded) : ErrorMap.ofJson? m.toJson = some m := by
    rw [same h]
    exact m.ofJson?_encode
  refine ⟨?_, ?_, ?_⟩
  · intro m h
    have hobject : m.toJson = .object (FieldErrors.encodeEntries m) := by
      rw [same h, ErrorMap.encode, FieldErrors.encode]
    exact ⟨same h, ⟨_, hobject, FieldErrors.keys_encodeEntries m⟩, back h⟩
  · intro m n hm hn heq
    have hback := back hm
    rw [heq, back hn] at hback
    exact (Option.some.inj hback).symm
  · intro s document m h
    have recorded := Schema.recorded_validate h
    exact ⟨same recorded, back recorded⟩

/-- A list of messages and a map with the message as a key have different encodings, two levels
below the top. -/
theorem nested_errors_read_back :
    let required : ErrorMap := ErrorMap.withBase "required"
    let m : ErrorMap := ErrorMap.insert "1" (.nested required) (ErrorMap.withBase "strict")
    let n : ErrorMap := ErrorMap.insert "1" (.messages ["required"]) (ErrorMap.withBase "strict")
    let listed : Schema :=
      .array ⟨.single (.hash ⟨[], true, true, false⟩), false, none, none, true, false⟩
    m.Recorded ∧ n.Recorded ∧ m.toJson ≠ n.toJson ∧
      m.toJson = .object [("base", .array [.string "strict"]),
        ("1", .object [("base", .array [.string "required"])])] ∧
      ErrorMap.ofJson? m.toJson = some m ∧
      ∃ found : ErrorMap, listed.validate (.array [.object [], .bool true]) = .ok found ∧
        ErrorMap.ofJson? found.toJson = some found := by
  intro required m n listed
  obtain ⟨recorded, injective, validated⟩ := recorded_errors_read_back
  have hrequired : required.Recorded := .withBase
  have hm : m.Recorded := .insert .withBase (by rintro _ ⟨⟩; exact hrequired)
  have hn : n.Recorded := .insert .withBase (FieldErrors.recorded_messages _)
  have fails : listed.validate (.array [.object [], .bool true]) =
      .ok [("1", .nested [("base", .messages ["wrong type"])])] := rfl
  refine ⟨hm, hn, ?_, rfl, (recorded m hm).2.2, _, fails, (validated _ _ _ fails).2⟩
  intro heq
  have entries : [("base", FieldErrors.messages ["strict"]), ("1", .nested required)] =
      [("base", FieldErrors.messages ["strict"]), ("1", .messages ["required"])] :=
    injective m n hm hn heq
  cases entries

end Conform
