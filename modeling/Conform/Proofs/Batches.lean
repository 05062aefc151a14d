import Conform.Batch
import Conform.Proofs.Outcome

/-!
Batches as runs over the errors of documents. A batch over two lists is one over the first, and
then one over the second with the failures so far.
-/

namespace Conform
open Outcome

namespace Limits

theorem shouldStop_eq_false_iff {l : Limits} {failures : Nat} :
    l.shouldStop failures = false ↔ (l.failFast = true → failures = 0) ∧
      (0 < l.maxFailures → failures < l.maxFailures) := by
  simp [shouldStop]

theorem shouldStop_zero (l : Limits) : l.shouldStop 0 = false := by
  simp [shouldStop_eq_false_iff]

end Limits

/-- The errors of the documents that a report is about. -/
def BatchReport.errors (r : BatchReport) : List ErrorMap := r.results.map (·.errors)

namespace Batch

/-- What a document adds to the failures. -/
def tally (errors : ErrorMap) : Nat := if errors.isEmpty then 0 else 1

/-- How many documents are invalid. -/
def failed (found : List ErrorMap) : Nat := found.foldr (fun errors n => tally errors + n) 0

/-- The errors of the documents that are checked after so many failures. -/
def verdicts (schema : Schema) (limits : Limits) (failures : Nat) :
    List Json → Except Fault (List ErrorMap)
  | [] => .ok []
  | document :: rest => do
    let errors ← schema.validate document
    if limits.shouldStop (failures + tally errors) then return [errors]
    else (verdicts schema limits (failures + tally errors) rest).map (errors :: ·)

/-- Results under the indices from one on. -/
def numbered (index : Nat) : List ErrorMap → List DocumentResult
  | [] => []
  | errors :: rest => ⟨index, errors⟩ :: numbered (index + 1) rest

/-- The report on so many documents. -/
def reportOn (total : Nat) (found : List ErrorMap) : BatchReport :=
  ⟨numbered 0 found, total, found.length < total⟩

variable {schema : Schema} {limits : Limits} {failures index total : Nat}
  {xs ys documents : List Json} {errors : ErrorMap} {found more : List ErrorMap}

theorem tally_eq_zero_iff : tally errors = 0 ↔ errors = [] := by
  cases errors <;> simp [tally]

@[simp]
theorem failed_nil : failed [] = 0 := rfl

@[simp]
theorem failed_cons : failed (errors :: found) = tally errors + failed found := by
  simp [failed]

@[simp]
theorem failed_append : failed (found ++ more) = failed found + failed more := by
  induction found with
  | nil => simp
  | cons errors found ih => simp [ih, Nat.add_assoc]

theorem map_errors_numbered : (numbered index found).map (·.errors) = found := by
  induction found generalizing index with
  | nil => rfl
  | cons errors found ih => rw [numbered, List.map_cons, ih]

theorem length_numbered : (numbered index found).length = found.length := by
  rw [← List.length_map (f := (·.errors)), map_errors_numbered]

theorem results_eq_numbered : results schema limits index failures documents =
    (verdicts schema limits failures documents).map (numbered index) := by
  induction documents generalizing index failures with
  | nil => rfl
  | cons document rest ih =>
    rw [results, verdicts]
    cases schema.validate document with
    | error f => rfl
    | ok errors =>
      have hcount : (if errors.isEmpty then failures else failures + 1) =
          failures + tally errors := by
        unfold tally
        split <;> rfl
      simp only [ok_bind, hcount]
      split
      · rfl
      · rw [ih]
        cases verdicts schema limits _ rest <;> rfl

theorem validate_eq_reportOn : validate schema documents limits =
    (verdicts schema limits 0 documents).map (reportOn documents.length) := by
  rw [validate, results_eq_numbered]
  cases verdicts schema limits 0 documents with
  | error f => rfl
  | ok found =>
    rw [ok_map, ok_bind, pure_eq_ok, length_numbered]
    rfl

theorem errors_reportOn : (reportOn total found).errors = found := map_errors_numbered

theorem verdicts_append (go : limits.shouldStop failures = false) :
    verdicts schema limits failures (xs ++ ys) =
      verdicts schema limits failures xs >>= fun first =>
        if limits.shouldStop (failures + failed first) then .ok first
        else (verdicts schema limits (failures + failed first) ys).map (first ++ ·) := by
  induction xs generalizing failures with
  | nil =>
    rw [List.nil_append, verdicts, ok_bind, failed_nil, Nat.add_zero, go]
    cases verdicts schema limits failures ys <;> rfl
  | cons document xs ih =>
    rw [List.cons_append, verdicts, verdicts]
    cases schema.validate document with
    | error f => rfl
    | ok errors =>
      simp only [ok_bind]
      cases hs : limits.shouldStop (failures + tally errors) with
      | true => simp [hs]
      | false =>
        simp only [Bool.false_eq_true, if_false, ih hs]
        cases verdicts schema limits (failures + tally errors) xs with
        | error f => rfl
        | ok first =>
          simp only [ok_bind, ok_map, failed_cons, Nat.add_assoc]
          split
          · rfl
          · cases verdicts schema limits (failures + (tally errors + failed first)) ys <;> rfl

/-- A run ends with at most as many failures as it takes to stop. -/
theorem failed_le_of_stop {bound : Nat} (stop : ∀ n, limits.shouldStop n = false → n < bound)
    (go : limits.shouldStop failures = false)
    (h : verdicts schema limits failures documents = .ok found) :
    failures + failed found ≤ bound := by
  induction documents generalizing failures found with
  | nil =>
    cases h
    exact Nat.le_of_lt (stop failures go)
  | cons document rest ih =>
    rw [verdicts, bind_eq_ok_iff] at h
    obtain ⟨errors, -, h⟩ := h
    have hone : tally errors ≤ 1 := by
      unfold tally
      split <;> omega
    split at h
    · cases h
      have := stop failures go
      simp only [failed_cons, failed_nil]
      omega
    · rename_i hs
      obtain ⟨more, hmore, rfl⟩ := map_eq_ok_iff.mp h
      have := ih (by simpa using hs) hmore
      rw [failed_cons]
      omega

/-- No run goes past the limit. -/
theorem failed_le_of_verdicts (hmax : 0 < limits.maxFailures)
    (go : limits.shouldStop failures = false)
    (h : verdicts schema limits failures documents = .ok found) :
    failures + failed found ≤ limits.maxFailures :=
  failed_le_of_stop (fun _ hn => (Limits.shouldStop_eq_false_iff.mp hn).2 hmax) go h

/-- A run finds nothing wrong exactly when no document has errors. -/
theorem verdicts_unfailed_iff (go : limits.shouldStop failures = false) :
    (∃ found, verdicts schema limits failures documents = .ok found ∧ failed found = 0) ↔
      ∀ document ∈ documents, schema.validate document = .ok [] := by
  induction documents with
  | nil => simp [verdicts]
  | cons document rest ih =>
    rw [List.forall_mem_cons, ← ih, verdicts]
    cases schema.validate document with
    | error f => simp
    | ok errors =>
      rw [ok_bind]
      by_cases he : errors = []
      · subst he
        have hzero : tally [] = 0 := rfl
        simp only [hzero, Nat.add_zero, go, Bool.false_eq_true, if_false, true_and]
        constructor
        · rintro ⟨_, h, hf⟩
          obtain ⟨found, hfound, rfl⟩ := map_eq_ok_iff.mp h
          exact ⟨found, hfound, by simpa [hzero] using hf⟩
        · rintro ⟨found, hfound, hf⟩
          exact ⟨_, map_eq_ok_iff.mpr ⟨found, hfound, rfl⟩, by simpa [hzero] using hf⟩
      · have hpos := mt tally_eq_zero_iff.mp he
        constructor
        · rintro ⟨found, h, hf⟩
          split at h
          · cases h
            simp [hpos] at hf
          · obtain ⟨more, _, rfl⟩ := map_eq_ok_iff.mp h
            simp [hpos] at hf
        · rintro ⟨heq, -⟩
          exact (he (Except.ok.inj heq)).elim

/-- A run that finds nothing wrong has looked at every document. -/
theorem length_of_unfailed (go : limits.shouldStop failures = false)
    (h : verdicts schema limits failures documents = .ok found) (hf : failed found = 0) :
    found.length = documents.length := by
  induction documents generalizing found with
  | nil =>
    cases h
    rfl
  | cons document rest ih =>
    rw [verdicts, bind_eq_ok_iff] at h
    obtain ⟨errors, -, h⟩ := h
    split at h
    · rename_i hs
      cases h
      have hzero : tally errors = 0 := by simpa using hf
      rw [hzero, Nat.add_zero, go] at hs
      cases hs
    · obtain ⟨more, hmore, rfl⟩ := map_eq_ok_iff.mp h
      obtain ⟨hzero, hmf⟩ : tally errors = 0 ∧ failed more = 0 := by simpa using hf
      rw [hzero, Nat.add_zero] at hmore
      rw [List.length_cons, List.length_cons, ih hmore hmf]

end Batch

namespace BatchReport
variable (r : BatchReport)

theorem checked_eq_length : r.checked = r.errors.length := (List.length_map _).symm

theorem failureCount_eq_failed : r.failureCount = Batch.failed r.errors := by
  unfold failureCount failures errors
  induction r.results with
  | nil => rfl
  | cons d rest ih =>
    rw [List.filter_cons, List.map_cons, Batch.failed_cons, Batch.tally, ← ih]
    cases h : d.errors.isEmpty <;> simp [DocumentResult.valid, h]
    omega

theorem isValid_iff : r.isValid = true ↔ r.stoppedEarly = false ∧ Batch.failed r.errors = 0 := by
  rw [← failureCount_eq_failed, failureCount, failures, List.length_eq_zero_iff,
    List.filter_eq_nil_iff, isValid, Bool.and_eq_true, List.all_eq_true]
  simp

end BatchReport

end Conform
