import Conform.Proofs.Naming
import Conform.Proofs.Places

/-!
What a walk over a schema and a document finds, each message with its place, and that errors tell
exactly this: in the same order, at the paths that reports show.
-/

namespace Conform
open Outcome

/-- A message and the place it is about. -/
structure Finding where
  place : Place
  message : String
deriving DecidableEq, Repr

namespace Finding

/-- A message about the value itself. -/
def own (m : Message) : Finding := ⟨[], m.text⟩

/-- A finding in what a container holds, as one of the container. -/
def under (step : PathStep) (f : Finding) : Finding := ⟨step :: f.place, f.message⟩

/-- The violation with the path that names every step. -/
def named (f : Finding) : Violation := ⟨"$" ++ f.place.written, f.message⟩

/-- The violation that a report shows, from the path of the value on. -/
def shown (path : String) (f : Finding) : Violation := ⟨path ++ f.place.shown, f.message⟩

end Finding

/-- What is wrong with a value that a container cannot take. -/
def refusal? (allowNil : Bool) (v : Json) : Option Message :=
  if v.isNull then if allowNil then none else some .nilNotAllowed else some .wrongType

/-- What is wrong with a length; the lower bound goes first. -/
def sizeMessage? (length : Nat) (minSize maxSize : Option Nat) : Option Message :=
  if minSize.any (length < ·) then minSize.map (.tooFew · length)
  else if maxSize.any (· < length) then maxSize.map (.tooMany · length)
  else none

/-- What is wrong with an array itself. -/
def containerMessage? {P : Type} (a : ArraySchema P) (items : List Json) : Option Message :=
  if a.unique && hasDuplicates items then some .duplicateItems
  else
    let (least, most) := a.mode.bounds a.minSize a.maxSize
    sizeMessage? items.length least most

/-- The messages about a value where a leaf is described. -/
def Leaf.messages (l : Leaf) (v : Json) : Except Fault (List String) :=
  if v.isNull then
    .ok (if l.allowNil || l.test.accepts v then [] else [Message.nilNotAllowed.text])
  else if l.test.accepts v then runValidators v l.validators []
  else .ok [Message.wrongType.text]

namespace Property

/-- Goes through the elements from an index on, up to the first in which something is found. -/
def firstFound (find : Json → Except Fault (List Finding)) :
    Nat → List Json → Except Fault (List Finding)
  | _, [] => .ok []
  | index, v :: vs => do
    let here ← find v
    if here.isEmpty then firstFound find (index + 1) vs
    else return here.map (.under (.element index))

mutual

/-- What is found in a value, in the order of reporting. -/
def findings : Property → Json → Except Fault (List Finding)
  | .leaf l, v => (l.messages v).map fun ms => ms.map fun m => ⟨[], m⟩
  | .hash h, v => hashFindings h v
  | .array a, v => arrayFindings a v

def hashFindings : HashSchema Property → Json → Except Fault (List Finding)
  | ⟨properties, strict, _, allowNil⟩, v =>
    match v with
    | .object fields =>
      if strict && fields.any (fun field => !Assoc.contains field.1 properties) then
        .ok [.own .undeclaredKeys]
      else fieldFindings fields properties
    | v => .ok ((refusal? allowNil v).toList.map .own)

def arrayFindings : ArraySchema Property → Json → Except Fault (List Finding)
  | ⟨mode, unique, minSize, maxSize, required, allowNil⟩, v =>
    match v with
    | .array items =>
      match containerMessage? ⟨mode, unique, minSize, maxSize, required, allowNil⟩ items with
      | some m => .ok [.own m]
      | none =>
        match mode with
        | .unset => .ok []
        | .single element => firstFound (fun v => element.findings v) 0 items
        | .tuple required optional => do
          let found ← positionFindings 0 required items
          if found.isEmpty then
            positionFindings required.length optional (items.drop required.length)
          else return found
    | v => .ok ((refusal? allowNil v).toList.map .own)

/-- What is found under each declared property. -/
def fieldFindings (fields : List (String × Json)) :
    List (String × Property) → Except Fault (List Finding)
  | [] => .ok []
  | (name, p) :: rest => do
    let here ←
      match Assoc.lookup name fields with
      | some v => p.findings v
      | none => .ok (if p.isRequired then [.own .required] else [])
    return here.map (.under (.field name)) ++ (← fieldFindings fields rest)

/-- Goes through positions, each with its own property. -/
def positionFindings (index : Nat) :
    List Property → List Json → Except Fault (List Finding)
  | p :: ps, v :: vs => do
    let here ← p.findings v
    if here.isEmpty then positionFindings (index + 1) ps vs
    else return here.map (.under (.element index))
  | _, _ => .ok []

end

end Property

/-- The errors under a field or an element tell these findings, wherever the value is. -/
structure FieldErrors.Tells (e : FieldErrors) (found : List Finding) : Prop where
  isEmpty : e.isEmpty = found.isEmpty
  shown : ∀ path, e.violations path = found.map (Finding.shown path)

/-- The errors of a container tell these findings. -/
structure ErrorMap.Tells (m : ErrorMap) (found : List Finding) : Prop where
  isEmpty : m.isEmpty = found.isEmpty
  shown : ∀ path, entryViolations path m = found.map (Finding.shown path)

theorem entryViolations_append (path : String) (m n : ErrorMap) :
    entryViolations path (m ++ n) = entryViolations path m ++ entryViolations path n := by
  induction m with
  | nil => rfl
  | cons entry m ih =>
    obtain ⟨key, errors⟩ := entry
    rw [List.cons_append, entryViolations, entryViolations, ih, List.append_assoc]

theorem Finding.shown_under (path : String) (step : PathStep) (f : Finding) :
    (f.under step).shown path = f.shown (childPath path step.key) := by
  unfold under shown
  rw [Place.shown, childPath_eq_append path step.key, ← String.append_assoc]
  rfl

namespace ErrorMap
variable {m n : ErrorMap} {found more : List Finding}

theorem Tells.nil : Tells [] [] := ⟨rfl, fun _ => rfl⟩

theorem Tells.own (msg : Message) : Tells msg.errors [.own msg] := by
  refine ⟨rfl, fun path => ?_⟩
  have hpath : childPath path baseKey = path := if_pos rfl
  simp [Message.errors, withBase, FieldErrors.message, entryViolations, FieldErrors.violations,
    hpath, Finding.shown, Finding.own, Place.shown]

theorem Tells.append (h : Tells m found) (h' : Tells n more) : Tells (m ++ n) (found ++ more) := by
  refine ⟨?_, fun path => ?_⟩
  · have hm := h.isEmpty
    have hn := h'.isEmpty
    cases m <;> cases found <;> simp_all
  · rw [entryViolations_append, h.shown, h'.shown, List.map_append]

/-- What is told under a key is found one step further down. -/
theorem Tells.entry {e : FieldErrors} (step : PathStep) (h : e.Tells found)
    (hne : e.isEmpty = false) : Tells [(step.key, e)] (found.map (.under step)) := by
  refine ⟨?_, fun path => ?_⟩
  · rw [h.isEmpty] at hne
    rw [List.isEmpty_map, hne]
    rfl
  · rw [entryViolations, entryViolations, List.append_nil, h.shown, List.map_map]
    refine List.map_congr_left fun f _ => ?_
    exact (f.shown_under path step).symm

theorem Tells.ofMap (h : Tells m found) : (FieldErrors.ofMap m).Tells found := by
  refine ⟨(FieldErrors.ofMap_isEmpty m).trans h.isEmpty, fun path => ?_⟩
  rw [← h.shown path, FieldErrors.ofMap]
  split
  · rename_i hm
    rw [List.isEmpty_iff.mp hm]
    rfl
  · rfl

/-- A key that is not there yet goes last. -/
theorem insert_of_not_mem {key : String} {e : FieldErrors} (h : key ∉ m.map (·.1)) :
    m.insert key e = m ++ if e.isEmpty then [] else [(key, e)] := by
  unfold ErrorMap.insert
  split
  · simp
  · exact Assoc.store_of_not_mem h

end ErrorMap

theorem FieldErrors.Tells.messages (ms : List String) :
    Tells (.messages ms) (ms.map fun m => ⟨[], m⟩) := by
  refine ⟨(List.isEmpty_map ..).symm, fun path => ?_⟩
  simp [violations, Finding.shown, Place.shown]

theorem Leaf.check_eq (l : Leaf) (v : Json) : l.check v = (l.messages v).map .messages := by
  unfold check messages
  split
  · split <;> rfl
  · split <;> rfl

/-- The errors that a message is told by, if there is one. -/
def Message.errors? (m : Option Message) : ErrorMap := (m.map Message.errors).getD []

theorem ErrorMap.Tells.ofMessage (m : Option Message) :
    Tells (Message.errors? m) (m.toList.map .own) := by
  cases m with
  | none => exact .nil
  | some m => exact .own m

theorem refusal_eq (allowNil : Bool) (v : Json) :
    Property.refusal allowNil v = Message.errors? (refusal? allowNil v) := by
  unfold Property.refusal refusal?
  split
  · split <;> rfl
  · rfl

theorem sizeErrors_eq (length : Nat) (minSize maxSize : Option Nat) :
    sizeErrors length minSize maxSize = Message.errors? (sizeMessage? length minSize maxSize) := by
  unfold sizeErrors sizeMessage?
  cases minSize with
  | none =>
    cases maxSize with
    | none => rfl
    | some most => by_cases hm : most < length <;> simp [hm, Message.errors?]
  | some least =>
    by_cases hl : length < least
    · simp [hl, Message.errors?]
    · cases maxSize with
      | none => simp [hl, Message.errors?]
      | some most => by_cases hm : most < length <;> simp [hl, hm, Message.errors?]

theorem containerErrors_eq {P : Type} (a : ArraySchema P) (items : List Json) :
    containerErrors a items = Message.errors? (containerMessage? a items) := by
  unfold containerErrors containerMessage?
  split
  · rfl
  · exact sizeErrors_eq ..

namespace Property
variable {fields : List (String × Json)} {name : String} {p : Property} {v : Json}

/-- What a check tells is what is found. -/
def Told (p : Property) (v : Json) : Prop := Alike FieldErrors.Tells (p.check v) (p.findings v)

/-- What is found under one declared property, from the value there on. -/
def fieldFound (fields : List (String × Json)) (name : String) (p : Property) :
    Except Fault (List Finding) :=
  match Assoc.lookup name fields with
  | some v => p.findings v
  | none => .ok (if p.isRequired then [.own .required] else [])

theorem tells_missing (p : Property) : p.missing.Tells [.own .required] := by
  have hnested : FieldErrors.Tells (.nested Message.required.errors) [.own .required] :=
    ⟨rfl, (ErrorMap.Tells.own .required).shown⟩
  cases p with
  | leaf l => exact .messages [Message.required.text]
  | hash h => exact hnested
  | array a => exact hnested

theorem fieldVerdict_alike (ih : ∀ v, p.Told v) :
    Alike FieldErrors.Tells (fieldVerdict fields (name, p)) (fieldFound fields name p) := by
  unfold fieldFound
  cases hl : Assoc.lookup name fields with
  | some v =>
    rw [fieldVerdict_present hl]
    exact ih v
  | none =>
    rw [fieldVerdict_absent hl]
    cases p.isRequired with
    | true => exact .ok (tells_missing p)
    | false => exact .ok (.messages [])

theorem fieldFindings_cons (ps : List (String × Property)) :
    fieldFindings fields ((name, p) :: ps) = fieldFound fields name p >>= fun here =>
      (fieldFindings fields ps).map (here.map (.under (.field name)) ++ ·) := by
  rw [fieldFindings, fieldFound]
  cases Assoc.lookup name fields <;> rfl

theorem checkFields_cons (ps : List (String × Property)) (errors : ErrorMap) :
    checkFields fields ((name, p) :: ps) errors =
      fieldVerdict fields (name, p) >>= fun e => checkFields fields ps (errors.insert name e) := by
  simp only [checkFields_eq_foldlM, List.foldlM_cons]
  cases fieldVerdict fields (name, p) <;> rfl

/-- Different names never replace each other's errors, so the errors of properties are told one
after another. -/
theorem checkFields_alike {ps : List (String × Property)} {errors : ErrorMap}
    (distinct : (ps.map (·.1)).Nodup) (fresh : ∀ name ∈ ps.map (·.1), name ∉ errors.map (·.1))
    (ih : ∀ name p, (name, p) ∈ ps → ∀ v, p.Told v) :
    Alike (fun m found => ∃ added : ErrorMap, m = errors ++ added ∧ added.Tells found)
      (checkFields fields ps errors) (fieldFindings fields ps) := by
  induction ps generalizing errors with
  | nil => exact .ok ⟨[], (List.append_nil _).symm, .nil⟩
  | cons entry ps more =>
    obtain ⟨name, p⟩ := entry
    obtain ⟨hname, hps⟩ := List.nodup_cons.mp distinct
    have hfresh : name ∉ errors.map (·.1) := fresh name (by simp)
    rw [checkFields_cons, fieldFindings_cons]
    refine (fieldVerdict_alike (ih name p (by simp))).bind fun e here htold => ?_
    rw [ErrorMap.insert_of_not_mem hfresh]
    have hentry : ErrorMap.Tells (if e.isEmpty then [] else [(name, e)])
        (here.map (.under (.field name))) := by
      cases hempty : e.isEmpty with
      | true =>
        rw [htold.isEmpty, List.isEmpty_iff] at hempty
        rw [hempty]
        exact .nil
      | false => exact .entry (.field name) htold hempty
    have hkeys : ∀ other ∈ ps.map (·.1),
        other ∉ (errors ++ if e.isEmpty then [] else [(name, e)]).map (·.1) := by
      intro other hother
      have hne : other ≠ name := by
        rintro rfl
        exact hname hother
      have hold := fresh other (by simp [hother])
      split <;> simp_all
    refine (more hps hkeys fun other q hq => ih other q (by simp [hq])).map_right ?_
    rintro m found ⟨added, rfl, hadded⟩
    exact ⟨_, List.append_assoc .., hentry.append hadded⟩

theorem refusal_tells (allowNil : Bool) (v : Json) :
    ErrorMap.Tells (refusal allowNil v) ((refusal? allowNil v).toList.map .own) := by
  rw [refusal_eq]
  exact .ofMessage _

theorem hashErrors_alike {h : HashSchema Property} (distinct : (h.properties.map (·.1)).Nodup)
    (ih : ∀ name p, (name, p) ∈ h.properties → ∀ v, p.Told v) (v : Json) :
    Alike ErrorMap.Tells (hashErrors h v) (hashFindings h v) := by
  obtain ⟨properties, strict, required, allowNil⟩ := h
  cases v with
  | object fields =>
    rw [hashErrors, hashFindings]
    split
    · exact .ok (.own .undeclaredKeys)
    · refine (checkFields_alike distinct (by simp) ih).mono ?_
      rintro m found ⟨added, rfl, h⟩
      exact h
  | _ => exact .ok (refusal_tells allowNil _)

/-- An element in which nothing is found is passed over; another one ends the search. -/
theorem element_alike {index : Nat} {e : FieldErrors} {here : List Finding}
    {later : Except Fault ErrorMap} {more : Except Fault (List Finding)} (h : e.Tells here)
    (rest : Alike ErrorMap.Tells later more) :
    Alike ErrorMap.Tells (if e.isEmpty then later else .ok [(toString index, e)])
      (if here.isEmpty then more else .ok (here.map (.under (.element index)))) := by
  rw [← h.isEmpty]
  cases hempty : e.isEmpty with
  | true => exact rest
  | false => exact .ok (.entry (.element index) h hempty)

theorem firstFailure_alike (told : ∀ v, p.Told v) (index : Nat) (items : List Json) :
    Alike ErrorMap.Tells (firstFailure (fun v => p.check v) index items)
      (firstFound (fun v => p.findings v) index items) := by
  induction items generalizing index with
  | nil => exact .ok .nil
  | cons v items more =>
    rw [firstFailure, firstFound]
    exact (told v).bind fun e here h => element_alike h (more _)

theorem checkPositions_alike {ps : List Property} (told : ∀ p ∈ ps, ∀ v, p.Told v) (index : Nat)
    (items : List Json) :
    Alike ErrorMap.Tells (checkPositions index ps items) (positionFindings index ps items) := by
  induction ps generalizing index items with
  | nil => exact .ok .nil
  | cons p ps more =>
    cases items with
    | nil => exact .ok .nil
    | cons v items =>
      rw [checkPositions, positionFindings]
      have hp := told p (by simp) v
      exact hp.bind fun e here h =>
        element_alike h (more (fun q hq => told q (by simp [hq])) _ _)

/-- A message about an array itself hides its elements. -/
theorem container_alike (a : ArraySchema Property) (items : List Json) {x : Except Fault ErrorMap}
    {y : Except Fault (List Finding)} (rest : Alike ErrorMap.Tells x y) :
    Alike ErrorMap.Tells
      (if !(containerErrors a items).isEmpty then .ok (containerErrors a items) else x)
      (match containerMessage? a items with
        | some m => .ok [.own m]
        | none => y) := by
  rw [containerErrors_eq]
  cases containerMessage? a items with
  | none => exact rest
  | some m => exact .ok (.own m)

theorem arrayErrors_alike {a : ArraySchema Property}
    (told : ∀ p ∈ a.mode.properties, ∀ v, p.Told v) (v : Json) :
    Alike ErrorMap.Tells (arrayErrors a v) (arrayFindings a v) := by
  obtain ⟨mode, unique, minSize, maxSize, required, allowNil⟩ := a
  cases v with
  | array items =>
    cases mode with
    | unset => exact container_alike _ items (.ok .nil)
    | single element =>
      have each := firstFailure_alike (told element (by simp [ArrayMode.properties])) 0 items
      exact container_alike _ items each
    | tuple first later =>
      have hfirst := checkPositions_alike (fun p hp => told p (List.mem_append_left _ hp)) 0 items
      have hlater := checkPositions_alike (fun p hp => told p (List.mem_append_right _ hp))
        first.length (items.drop first.length)
      refine container_alike _ items (hfirst.bind fun m found h => ?_)
      rw [← h.isEmpty]
      cases m.isEmpty with
      | true => exact hlater
      | false => exact .ok h
  | _ => exact .ok (refusal_tells allowNil _)

theorem told_of_wellNamed {p : Property} (h : p.WellNamed) (v : Json) : p.Told v := by
  induction h generalizing v with
  | @leaf l =>
    unfold Told
    rw [check, findings, Leaf.check_eq]
    cases l.messages v with
    | error f => exact .error
    | ok ms => exact .ok (.messages ms)
  | hash distinct inside ih =>
    exact (hashErrors_alike distinct ih v).map_left fun m found h => h.ofMap
  | array inside ih => exact (arrayErrors_alike ih v).map_left fun m found h => h.ofMap

end Property

theorem Schema.validate_alike {s : Schema} (h : s.toProperty.WellNamed) (document : Json) :
    Alike ErrorMap.Tells (s.validate document) (s.toProperty.findings document) := by
  cases s with
  | hash h' =>
    cases h with
    | hash distinct inside =>
      exact Property.hashErrors_alike distinct
        (fun name p hp => Property.told_of_wellNamed (inside name p hp)) document
  | array a =>
    cases h with
    | array inside =>
      exact Property.arrayErrors_alike (fun p hp => Property.told_of_wellNamed (inside p hp))
        document

theorem Finding.shown_eq_named_iff {f : Finding} :
    f.shown "$" = f.named ↔ ∀ step ∈ f.place, step.Plain := by
  rw [← Place.shown_eq_written_iff]
  simp [shown, named]

/-- The violations of a document are what is found in it, in the order of reporting. Their paths
name the places of the findings exactly if every step to each of them is plain: it goes to a
property whose name looks neither like an index nor like the key of a container's own errors, or to
an element whose index fits 64 bits. -/
theorem violations_name_places_iff {s : Schema} (wellNamed : s.toProperty.WellNamed)
    {document : Json} {m : ErrorMap} (h : s.validate document = .ok m) :
    ∃ found, s.toProperty.findings document = .ok found ∧
      m.violations = found.map (Finding.shown "$") ∧
      (m.violations = found.map Finding.named ↔ ∀ f ∈ found, ∀ step ∈ f.place, step.Plain) := by
  obtain ⟨found, hfound, told⟩ := (Schema.validate_alike wellNamed document).exists_of_ok h
  have hshown : m.violations = found.map (Finding.shown "$") := told.shown "$"
  refine ⟨found, hfound, hshown, ?_⟩
  rw [hshown, List.map_inj_left]
  exact forall₂_congr fun f _ => Finding.shown_eq_named_iff

/-- A property named `0` is shown as the first element of an array. -/
theorem numeral_name_shown_as_index :
    let definition : Json := .object [("type", .string "hash"),
      ("properties", .object [("0", .string "string")])]
    let document : Json := .object [("0", .number (.ofNat 1))]
    let found : List Finding := [⟨[.field "0"], "wrong type"⟩]
    ∃ s m, Definition.schema .builtin definition = .ok s ∧ s.validate document = .ok m ∧
      s.toProperty.findings document = .ok found ∧
      found.map Finding.named = [⟨"$.0", "wrong type"⟩] ∧
      m.violations = [⟨"$[0]", "wrong type"⟩] ∧ m.violations ≠ found.map Finding.named := by
  intro definition document found
  let s : Schema :=
    .hash ⟨[("0", .leaf ⟨"string", .string, true, false, []⟩)], true, true, false⟩
  let m : ErrorMap := [("0", .message "wrong type")]
  have built : Definition.schema .builtin definition = .ok s := rfl
  have valid : s.validate document = .ok m := rfl
  have walk : s.toProperty.findings document = .ok found := rfl
  obtain ⟨found', hfound, -, hplain⟩ := violations_name_places_iff
    (Definition.wellNamed_of_schema Registry.wellNamed_builtin built) valid
  obtain rfl : found' = found := Except.ok.inj (hfound.symm.trans walk)
  refine ⟨s, m, built, valid, walk, by decide, by decide, fun heq => ?_⟩
  have hname : PathStep.Plain (.field "0") :=
    hplain.mp heq _ (List.mem_singleton_self _) _ (List.mem_singleton_self _)
  cases hname.2

end Conform
