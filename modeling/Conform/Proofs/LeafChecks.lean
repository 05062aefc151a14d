import Conform.Proofs.OptionOrder

/-!
What a leaf says of a value. Of validators that are added one by one the first of each name stays.
A check asks all of them: it fails as the first that fails, and otherwise collects the messages of
those that reject, each where it occurs first.
-/

namespace Conform
open Outcome

section Firsts
variable {α β : Type} [DecidableEq β] {key : α → β} {xs ys : List α} {x : α} {k : β}

/-- Adds an element unless there is one of its key. -/
def addNew (key : α → β) (xs : List α) (x : α) : List α :=
  if key x ∈ xs.map key then xs else xs ++ [x]

/-- The first element of each key, in order. -/
def firsts (key : α → β) (xs : List α) : List α := xs.eraseDupsBy fun x y => key x == key y

theorem firsts_cons : firsts key (x :: xs) =
    x :: firsts key (xs.filter fun y => decide (key y ≠ key x)) := by
  rw [firsts, List.eraseDupsBy_cons, firsts]
  simp

theorem foldl_addNew_append : ys.foldl (addNew key) xs =
    xs ++ firsts key (ys.filter fun y => decide (key y ∉ xs.map key)) := by
  induction ys generalizing xs with
  | nil => simp [firsts]
  | cons y ys ih =>
    rw [List.foldl_cons, ih, addNew]
    by_cases hy : key y ∈ xs.map key
    · rw [if_pos hy, List.filter_cons_of_neg (by simpa using hy)]
    · have hrest : ys.filter (fun z => decide (key z ∉ (xs ++ [y]).map key)) =
          (ys.filter fun z => decide (key z ∉ xs.map key)).filter
            fun z => decide (key z ≠ key y) := by
        rw [List.filter_filter]
        refine List.filter_congr fun z _ => ?_
        simp only [List.map_append, List.map_singleton, List.mem_append, List.mem_singleton, not_or,
          Bool.decide_and, Bool.and_comm]
      rw [if_neg hy, List.filter_cons_of_pos (by simpa using hy), firsts_cons, hrest,
        List.append_assoc]
      rfl

theorem foldl_addNew : xs.foldl (addNew key) [] = firsts key xs := by
  rw [foldl_addNew_append, List.nil_append, List.filter_eq_self.mpr (by simp)]

theorem addNew_nodup (distinct : (xs.map key).Nodup) : ((addNew key xs x).map key).Nodup := by
  unfold addNew
  split
  · exact distinct
  · rename_i hx
    rw [List.map_append, List.nodup_append]
    refine ⟨distinct, by simp, ?_⟩
    intro a ha b hb
    obtain rfl : b = key x := by simpa using hb
    rintro rfl
    exact hx ha

theorem foldl_addNew_nodup (distinct : (xs.map key).Nodup) :
    ((ys.foldl (addNew key) xs).map key).Nodup := by
  induction ys generalizing xs with
  | nil => exact distinct
  | cons y ys ih => exact ih (addNew_nodup distinct)

theorem firsts_nodup (key : α → β) (xs : List α) : ((firsts key xs).map key).Nodup := by
  rw [← foldl_addNew]
  exact foldl_addNew_nodup List.nodup_nil

theorem mem_keys_addNew : k ∈ (addNew key xs x).map key ↔ k ∈ xs.map key ∨ k = key x := by
  unfold addNew
  split
  · rename_i hx
    exact ⟨.inl, fun h => h.elim id fun heq => heq ▸ hx⟩
  · simp

theorem mem_keys_foldl_addNew :
    k ∈ (ys.foldl (addNew key) xs).map key ↔ k ∈ xs.map key ∨ k ∈ ys.map key := by
  induction ys generalizing xs with
  | nil => simp
  | cons y ys ih =>
    rw [List.foldl_cons, ih, mem_keys_addNew, List.map_cons, List.mem_cons, or_assoc]

theorem mem_keys_firsts : k ∈ (firsts key xs).map key ↔ k ∈ xs.map key := by
  rw [← foldl_addNew, mem_keys_foldl_addNew]
  simp

end Firsts

namespace Leaf
variable {l : Leaf} {w : Validator} {ws : List Validator} {value : Json}
  {messages out : List String}

/-- The leaf after additions one by one; one that fails changes nothing. -/
def attachAll (ws : List Validator) (l : Leaf) : Leaf :=
  ws.foldl (fun l w => (l.addValidator w).toOption.getD l) l

theorem addValidator_getD (l : Leaf) (w : Validator) : (l.addValidator w).toOption.getD l =
    { l with validators := addNew Validator.name l.validators w } := by
  unfold addNew
  split
  · rename_i htaken
    have hrefused : (l.addValidator w).toOption = none := by
      rw [Option.eq_none_iff_forall_ne_some]
      intro k hk
      exact (addValidator_eq_ok_iff.mp (toOption_eq_some_iff.mp hk)).1 htaken
    rw [hrefused]
    rfl
  · rename_i hnew
    rw [addValidator_eq_ok_iff.mpr ⟨hnew, rfl⟩]
    rfl

theorem attachAll_eq (ws : List Validator) (l : Leaf) : l.attachAll ws =
    { l with validators := ws.foldl (addNew Validator.name) l.validators } := by
  induction ws generalizing l with
  | nil => rfl
  | cons w ws ih =>
    rw [attachAll, List.foldl_cons, addValidator_getD]
    exact ih _

theorem addValidator_eq_error_iff {e : SchemaError} : l.addValidator w = .error e ↔
    w.name ∈ l.validators.map (·.name) ∧ e = .validatorAlreadyDefined w.name := by
  have htaken : (l.validator? w.name).isSome = true ↔ w.name ∈ l.validators.map (·.name) := by
    simp [validator?]
  unfold addValidator
  split
  · rename_i hsome
    simp [htaken.mp hsome, eq_comm]
  · rename_i hnone
    simp [mt htaken.mpr hnone]

/-- A validator has a verdict on a value, and it is no. -/
def rejects (value : Json) (w : Validator) : Bool :=
  match w.judge value with
  | .ok accepted => !accepted
  | .error _ => false

/-- The messages of the validators that reject a value, with repetitions. -/
def rejections (value : Json) (ws : List Validator) : List String :=
  (ws.filter (rejects value)).map (·.message)

theorem rejections_cons {accepted : Bool} (h : w.judge value = .ok accepted) :
    rejections value (w :: ws) =
      if accepted then rejections value ws else w.message :: rejections value ws := by
  cases accepted <;> simp [rejections, rejects, h]

theorem note_eq_addNew (message : String) (messages : List String) :
    note message messages = addNew id messages message := by
  simp [note, addNew]

/-- Where every validator has a verdict, the messages of those that reject come behind the ones that
are there. -/
theorem runValidators_eq_ok_iff : runValidators value ws messages = .ok out ↔
    (∀ w ∈ ws, ∃ b, w.judge value = .ok b) ∧
      out = (rejections value ws).foldl (addNew id) messages := by
  rw [runValidators_eq_foldlM]
  induction ws generalizing messages with
  | nil => simp [rejections, eq_comm]
  | cons w ws ih =>
    rw [List.foldlM_cons, List.forall_mem_cons]
    cases hw : w.judge value with
    | error f => simp
    | ok accepted =>
      rw [ok_map, ok_bind, ih, rejections_cons hw]
      cases accepted with
      | true => simp
      | false => simp [note_eq_addNew]

theorem check_of_typed (present : value.isNull = false) (typed : l.test.accepts value = true) :
    l.check value = (runValidators value l.validators []).map .messages := by
  rw [check, present, typed]
  rfl

/-- Null and values of another type are settled without the validators. -/
theorem check_of_untyped (h : value.isNull = true ∨ l.test.accepts value = false)
    (others : List Validator) : { l with validators := others }.check value = l.check value := by
  unfold check
  dsimp only
  split
  · rfl
  · rename_i hnull
    rw [h.resolve_left hnull]
    rfl

end Leaf

/-- Whatever is added to a leaf, the first validator of each name stays, in order. A value of its
type makes a check fail as the first of them that fails, whatever those before it say; otherwise the
check gives the messages of those that reject, each once and where it occurs first, which are none
exactly if all accept. For null and any other value it does not matter which validators there are.
-/
theorem leaf_checks_are_exact (kind : String) (test : TypeTest) (required allowNil : Bool)
    (ws : List Validator) (value : Json) :
    let l := Leaf.attachAll ws ⟨kind, test, required, allowNil, []⟩
    l = ⟨kind, test, required, allowNil, firsts Validator.name ws⟩ ∧
    (l.validators.map (·.name)).Nodup ∧
    (∀ w e, l.addValidator w = .error e ↔
      w.name ∈ ws.map (·.name) ∧ e = .validatorAlreadyDefined w.name) ∧
    (value.isNull = false → test.accepts value = true →
      (∀ f, l.check value = .error f ↔ FirstAt (fun w => ∃ accepted, w.judge value = .ok accepted)
        (fun w => w.judge value = .error f) l.validators) ∧
      ((∀ w ∈ l.validators, ∃ accepted, w.judge value = .ok accepted) →
        let messages := firsts id (Leaf.rejections value l.validators)
        l.check value = .ok (.messages messages) ∧
        (messages = [] ↔ ∀ w ∈ l.validators, w.judge value = .ok true))) ∧
    (value.isNull = true ∨ test.accepts value = false →
      ∀ others, { l with validators := others }.check value = l.check value) := by
  intro l
  have hl : l = ⟨kind, test, required, allowNil, firsts Validator.name ws⟩ := by
    rw [← foldl_addNew]
    exact Leaf.attachAll_eq ws _
  have hvalidators : l.validators = firsts Validator.name ws := by rw [hl]
  have htest : l.test = test := by rw [hl]
  refine ⟨hl, ?_, ?_, ?_, ?_⟩
  · rw [hvalidators]
    exact firsts_nodup _ _
  · intro w e
    rw [Leaf.addValidator_eq_error_iff, hvalidators]
    exact and_congr_left' mem_keys_firsts
  · intro present typed
    rw [Leaf.check_of_typed present (htest ▸ typed)]
    refine ⟨?_, ?_⟩
    · intro f
      rw [map_eq_error_iff, Leaf.runValidators_eq_error_iff]
    · intro judged messages
      have hrun : Leaf.runValidators value l.validators [] = .ok messages :=
        Leaf.runValidators_eq_ok_iff.mpr ⟨judged, foldl_addNew.symm⟩
      refine ⟨by rw [hrun]; rfl, ?_⟩
      rw [← Leaf.runValidators_eq_ok_nil_iff, hrun, Except.ok.injEq]
  · intro settled others
    exact Leaf.check_of_untyped (htest ▸ settled) others

/-- Two bounds share a message, a second bound of one name is refused, and a validator that cannot
judge integers makes the check fail though the first one has rejected the value. -/
theorem shared_message_collected_once :
    let above (n : Nat) : Validator := .comparison .greaterThan (.ofNat n)
    let atLeast (n : Nat) : Validator := .comparison .greaterThanOrEqualTo (.ofNat n)
    let one : Json := .number (.ofNat 1)
    let plain : Leaf := ⟨"integer", .integer, true, false, []⟩
    let bounds := plain.attachAll [above 3, atLeast 3, above 9]
    let strict := plain.attachAll [above 3, .allowBlank false]
    one.isNull = false ∧ TypeTest.integer.accepts one = true ∧
      bounds.validators.map (·.message) = ["less than `3`", "less than `3`"] ∧
      bounds.check one = .ok (.messages ["less than `3`"]) ∧
      (above 3).judge one = .ok false ∧
      strict.check one = .error (.schema (.incompatibleValue "allow_blank" "an integer")) ∧
      strict.check (.string "") = (Leaf.new "integer" .integer).check (.string "") := by
  intro above atLeast one plain bounds strict
  have low : (above 3).judge one = .ok false := rfl
  have lower : (atLeast 3).judge one = .ok false := rfl
  have unjudged : (Validator.allowBlank false).judge one =
    .error (.schema (.incompatibleValue "allow_blank" "an integer")) := rfl
  have typed : TypeTest.integer.accepts one = true := rfl
  obtain ⟨-, -, -, collected, -⟩ := leaf_checks_are_exact "integer" .integer true false
    [above 3, atLeast 3, above 9] one
  obtain ⟨-, -, -, failing, -⟩ := leaf_checks_are_exact "integer" .integer true false
    [above 3, .allowBlank false] one
  obtain ⟨-, -, -, -, settled⟩ := leaf_checks_are_exact "integer" .integer true false
    [above 3, .allowBlank false] (.string "")
  have kept : bounds.validators = [above 3, atLeast 3] := rfl
  refine ⟨rfl, typed, rfl, ?_, low, ?_, (settled (.inr rfl) []).symm⟩
  · have judged : ∀ w ∈ bounds.validators, ∃ accepted, w.judge one = .ok accepted := by
      rw [kept]
      simp [low, lower]
    exact ((collected rfl typed).2 judged).1
  · rw [(failing rfl typed).1]
    exact ⟨[above 3], .allowBlank false, [], rfl, by simp [low], unjudged⟩

end Conform
