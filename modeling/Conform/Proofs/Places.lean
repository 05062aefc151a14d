import Conform.ErrorMap

/-!
Places in documents, and the paths that reports show for them. A path goes by the spelling of keys,
so a property whose name looks like an index or like the key of a container's own errors is shown
at another place.
-/

namespace Conform

/-- A step from a container to what it holds. -/
inductive PathStep where
  | field (name : String)
  | element (index : Nat)
deriving DecidableEq, Repr

/-- The steps from the root to a place. -/
abbrev Place := List PathStep

namespace PathStep

/-- The key under which a container records the errors of what it holds. -/
def key : PathStep → String
  | field name => name
  | element i => toString i

/-- What names the step. -/
def written : PathStep → String
  | field name => "." ++ name
  | element i => "[" ++ toString i ++ "]"

/-- What a report shows for the step. -/
def shown (s : PathStep) : String := childPath "" s.key

/-- The key of the step is taken for what it is. -/
def Plain : PathStep → Prop
  | field name => name ≠ baseKey ∧ isIndex name = false
  | element i => i < pow2 64

end PathStep

namespace Place

def written : Place → String
  | [] => ""
  | step :: rest => step.written ++ written rest

def shown : Place → String
  | [] => ""
  | step :: rest => step.shown ++ shown rest

end Place

theorem childPath_eq_append (path key : String) :
    childPath path key = path ++ childPath "" key := by
  unfold childPath
  split
  · simp
  · split <;> simp [String.append_assoc]

theorem isDigit_of_mem_toString {i : Nat} {c : Char} (h : c ∈ (toString i).toList) :
    c.isDigit = true := by
  rw [Nat.toString_eq_repr, Nat.toList_repr] at h
  exact Nat.isDigit_of_mem_toDigits (by decide) (by decide) h

theorem toString_ne_baseKey (i : Nat) : toString i ≠ baseKey := by
  intro h
  have hdigit : 'b'.isDigit = true := isDigit_of_mem_toString (i := i) (by rw [h]; decide)
  cases hdigit

theorem isIndex_toString (i : Nat) : isIndex (toString i) = true ↔ i < pow2 64 := by
  have hvalue : Nat.ofDigitChars 10 (toString i).toList 0 = i := by
    rw [Nat.toString_eq_repr, Nat.toList_repr]
    exact Nat.ofDigitChars_toDigits (by decide) (by decide)
  have hsome : (toString i).toList.isEmpty = false := by simp
  have hall : (toString i).toList.all Char.isDigit = true :=
    List.all_eq_true.mpr fun c hc => isDigit_of_mem_toString hc
  unfold isIndex
  split
  · rename_i cs heq
    have hplus : '+'.isDigit = true :=
      isDigit_of_mem_toString (i := i) (heq ▸ List.mem_cons_self)
    cases hplus
  · dsimp only
    rw [hvalue, hsome, hall]
    simp

namespace PathStep
variable {s : PathStep} {x y : String}

theorem shown_of_base (h : s.key = baseKey) : s.shown = "" := by
  rw [shown, childPath, if_pos h]

theorem shown_of_index (hb : s.key ≠ baseKey) (h : isIndex s.key = true) :
    s.shown = "[" ++ s.key ++ "]" := by
  rw [shown, childPath, if_neg hb, if_pos h, String.empty_append]

theorem shown_of_name (hb : s.key ≠ baseKey) (h : isIndex s.key = false) :
    s.shown = "." ++ s.key := by
  rw [shown, childPath, if_neg hb, h, String.empty_append]
  rfl

/-- The marks that begin steps. -/
def opens (c : Char) : Bool := c = '.' || c = '['

/-- How many marks of steps a text holds. -/
def marks (t : String) : Nat := t.toList.countP opens

theorem marks_append (t u : String) : marks (t ++ u) = marks t + marks u := by
  rw [marks, String.toList_append, List.countP_append]
  rfl

/-- A step loses its mark if its key is the one for a container's own errors. -/
theorem marks_written (s : PathStep) :
    marks s.written = marks s.shown + if s.key = baseKey then 1 else 0 := by
  have hdot : marks "." = 1 := rfl
  have hopen : marks "[" = 1 := rfl
  have hclose : marks "]" = 0 := rfl
  by_cases hb : s.key = baseKey
  · rw [shown_of_base hb, if_pos hb]
    cases s with
    | field name =>
      obtain rfl : name = baseKey := hb
      rfl
    | element i => exact (toString_ne_baseKey i hb).elim
  · have hkey : marks s.written = 1 + marks s.key := by
      cases s <;> simp only [written, key, marks_append] <;> omega
    rw [if_neg hb, hkey]
    cases h : isIndex s.key with
    | true =>
      rw [shown_of_index hb h, marks_append, marks_append]
      omega
    | false =>
      rw [shown_of_name hb h, marks_append]
      omega

/-- Two texts that begin with a step, shown and written, agree only if the step is plain. -/
theorem plain_of_shown_append_eq (hb : s.key ≠ baseKey) (h : s.shown ++ x = s.written ++ y) :
    s.Plain := by
  have hchars := congrArg String.toList h
  cases s with
  | field name =>
    refine ⟨hb, ?_⟩
    cases hi : isIndex name with
    | false => rfl
    | true =>
      rw [shown_of_index hb hi] at hchars
      simp [written] at hchars
  | element i =>
    refine (isIndex_toString i).mp ?_
    cases hi : isIndex (toString i) with
    | true => rfl
    | false =>
      rw [shown_of_name hb hi] at hchars
      simp [written] at hchars

theorem Plain.key_ne_baseKey (h : s.Plain) : s.key ≠ baseKey := by
  cases s with
  | field name => exact h.1
  | element i => exact toString_ne_baseKey i

theorem Plain.shown_eq_written (h : s.Plain) : s.shown = s.written := by
  have hb := h.key_ne_baseKey
  cases s with
  | field name => exact shown_of_name hb h.2
  | element i => exact shown_of_index hb ((isIndex_toString i).mpr h)

end PathStep

namespace Place
open PathStep

theorem marks_written (place : Place) : marks place.written =
    marks place.shown + place.countP fun s => s.key = baseKey := by
  induction place with
  | nil => rfl
  | cons s rest ih =>
    rw [written, shown, marks_append, marks_append, ih, PathStep.marks_written, List.countP_cons]
    simp only [decide_eq_true_eq]
    omega

/-- A path is shown as it is written exactly if all of its steps are plain. -/
theorem shown_eq_written_iff {place : Place} :
    place.shown = place.written ↔ ∀ s ∈ place, s.Plain := by
  constructor
  · intro h
    have hcount := marks_written place
    rw [← h] at hcount
    -- No mark is lost, so no step stays unseen, and the first step can be told from both texts.
    have hzero : place.countP (fun s => s.key = baseKey) = 0 := by omega
    have hbase : ∀ s ∈ place, s.key ≠ baseKey := by simpa using hzero
    clear hcount hzero
    induction place with
    | nil => simp
    | cons s rest ih =>
      rw [shown, written] at h
      have hs : s.Plain := plain_of_shown_append_eq (hbase s (by simp)) h
      rw [hs.shown_eq_written, String.append_right_inj] at h
      have hrest := ih h (fun t ht => hbase t (by simp [ht]))
      exact List.forall_mem_cons.mpr ⟨hs, hrest⟩
  · intro h
    induction place with
    | nil => rfl
    | cons s rest ih =>
      obtain ⟨hs, hrest⟩ := List.forall_mem_cons.mp h
      rw [shown, written, hs.shown_eq_written, ih hrest]

end Place

end Conform
