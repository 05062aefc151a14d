import Conform.Proofs.Batches

/-!
How far a batch gets. A report is about the documents up to the first count at which there are too
many invalid ones, so a lower limit shows the beginning of what a higher one does.
-/

namespace Conform
open Outcome

theorem Limits.shouldStop_of_lower {low high : Limits} (same : high.failFast = low.failFast)
    (hlow : 0 < low.maxFailures)
    (hle : high.maxFailures = 0 ∨ low.maxFailures ≤ high.maxFailures) {failures : Nat}
    (h : high.shouldStop failures = true) : low.shouldStop failures = true := by
  simp only [shouldStop, Bool.or_eq_true, Bool.and_eq_true, decide_eq_true_eq, same] at h ⊢
  rcases h with fast | ⟨hpos, hmax⟩
  · exact .inl fast
  · exact .inr ⟨hlow, by omega⟩

namespace Batch

/-- Validation has a verdict, and the document has errors. -/
def rejects (schema : Schema) (document : Json) : Bool :=
  match schema.validate document with
  | .ok errors => !errors.isEmpty
  | .error _ => false

/-- How many documents are invalid. -/
def invalidAmong (schema : Schema) (documents : List Json) : Nat :=
  documents.countP (rejects schema)

/-- The least number of documents, from one on, among which there are too many invalid ones after so
many failures; all if there is none. -/
def reachAfter (failures : Nat) (schema : Schema) (limits : Limits) (documents : List Json) : Nat :=
  ((List.range' 1 documents.length).find? fun k =>
    limits.shouldStop (failures + invalidAmong schema (documents.take k))).getD documents.length

/-- The least number of documents, from one on, among which there are too many invalid ones; all if
there is none. -/
def reach (schema : Schema) (limits : Limits) (documents : List Json) : Nat :=
  ((List.range' 1 documents.length).find? fun k =>
    limits.shouldStop (invalidAmong schema (documents.take k))).getD documents.length

variable {schema : Schema} {limits low high : Limits} {failures index : Nat} {document : Json}
  {documents : List Json} {errors : ErrorMap} {found : List ErrorMap}

theorem reachAfter_zero : reachAfter 0 schema limits documents = reach schema limits documents := by
  simp only [reachAfter, reach, Nat.zero_add]

theorem invalidAmong_cons : invalidAmong schema (document :: documents) =
    (if rejects schema document then 1 else 0) + invalidAmong schema documents := by
  rw [invalidAmong, List.countP_cons, Nat.add_comm]
  rfl

theorem reachAfter_cons :
    reachAfter failures schema limits (document :: documents) =
      if limits.shouldStop (failures + if rejects schema document then 1 else 0) then 1
      else 1 + reachAfter (failures + if rejects schema document then 1 else 0) schema limits
        documents := by
  have hfirst : invalidAmong schema ((document :: documents).take 1) =
      if rejects schema document then 1 else 0 := by
    simp [invalidAmong_cons]
    rfl
  have hlater : ∀ k, invalidAmong schema ((document :: documents).take (1 + k)) =
      (if rejects schema document then 1 else 0) + invalidAmong schema (documents.take k) := by
    intro k
    rw [Nat.add_comm 1 k, List.take_succ_cons, invalidAmong_cons]
  have hrange : List.range' 1 (documents.length + 1) =
      1 :: (List.range' 1 documents.length).map (1 + ·) := by
    rw [List.range'_succ, List.map_add_range']
  rw [reachAfter, List.length_cons, hrange, List.find?_cons, hfirst]
  cases limits.shouldStop (failures + if rejects schema document then 1 else 0) with
  | true => rfl
  | false =>
    simp only [Bool.false_eq_true, if_false, List.find?_map, Function.comp_def, hlater,
      ← Nat.add_assoc]
    rw [reachAfter]
    cases (List.range' 1 documents.length).find? _ with
    | none => exact Nat.add_comm _ _
    | some k => rfl

/-- A batch is a plain traversal of the documents it reaches. -/
theorem verdicts_eq_mapM : verdicts schema limits failures documents =
    (documents.take (reachAfter failures schema limits documents)).mapM schema.validate := by
  induction documents generalizing failures with
  | nil => rfl
  | cons document rest ih =>
    rw [verdicts, reachAfter_cons]
    cases hd : schema.validate document with
    | error f =>
      have first : ∀ k, ((document :: rest).take (1 + k)).mapM schema.validate = .error f := by
        intro k
        rw [Nat.add_comm, List.take_succ_cons, List.mapM_cons, hd]
        rfl
      have hr : rejects schema document = false := by rw [rejects, hd]
      rw [hr, error_bind]
      by_cases hs : limits.shouldStop (failures + if false then 1 else 0) = true
      · rw [if_pos hs]
        exact (first 0).symm
      · rw [if_neg hs]
        exact (first _).symm
    | ok errors =>
      have htally : (if rejects schema document then 1 else 0) = tally errors := by
        cases he : errors.isEmpty <;> simp [rejects, hd, tally, he]
      rw [htally, ok_bind]
      split
      · rw [List.take_succ_cons, List.take_zero, List.mapM_cons, hd]
        rfl
      · rw [ih, Nat.add_comm 1, List.take_succ_cons, List.mapM_cons, hd, ok_bind]
        cases (rest.take _).mapM schema.validate <;> rfl

theorem reach_le : reach schema limits documents ≤ documents.length := by
  rw [reach]
  cases h : (List.range' 1 documents.length).find? _ with
  | none => exact Nat.le_refl _
  | some k =>
    have hk := List.mem_range'_1.mp (List.mem_of_find?_eq_some h)
    rw [Option.getD_some]
    omega

theorem stop_at_reach (h : reach schema limits documents < documents.length) :
    limits.shouldStop
      (invalidAmong schema (documents.take (reach schema limits documents))) = true := by
  rw [reach] at h ⊢
  cases hk : (List.range' 1 documents.length).find? _ with
  | none =>
    rw [hk] at h
    exact (Nat.lt_irrefl _ h).elim
  | some k => exact (List.find?_range'_eq_some.mp hk).1

theorem reach_le_of_stop {k : Nat} (hk : 1 ≤ k)
    (stop : limits.shouldStop (invalidAmong schema (documents.take k)) = true) :
    reach schema limits documents ≤ k := by
  rw [reach]
  cases h : (List.range' 1 documents.length).find? _ with
  | none =>
    rw [Option.getD_none]
    refine Nat.le_of_not_lt fun hlt => ?_
    have hgoes := List.find?_range'_eq_none.mp h k hk (by omega)
    rw [stop] at hgoes
    cases hgoes
  | some first =>
    refine Nat.le_of_not_lt fun hlt => ?_
    have hgoes := (List.find?_range'_eq_some.mp h).2.2 k hk hlt
    rw [stop] at hgoes
    cases hgoes

/-- A run that stops whenever another one does reaches no further. -/
theorem reach_mono (stops : ∀ n, high.shouldStop n = true → low.shouldStop n = true) :
    reach schema low documents ≤ reach schema high documents := by
  by_cases h : reach schema high documents < documents.length
  · have stop := stop_at_reach h
    have hone : 1 ≤ reach schema high documents := by
      refine Nat.one_le_iff_ne_zero.mpr fun hzero => ?_
      rw [hzero] at stop
      rw [List.take_zero, invalidAmong, List.countP_nil, Limits.shouldStop_zero] at stop
      cases stop
    exact reach_le_of_stop hone (stops _ stop)
  · have hle : reach schema low documents ≤ documents.length := reach_le
    omega

theorem getElem?_numbered (i : Nat) :
    (numbered index found)[i]? = found[i]?.map fun errors => ⟨index + i, errors⟩ := by
  induction found generalizing index i with
  | nil => rfl
  | cons errors found ih =>
    cases i with
    | zero => rfl
    | succ i =>
      rw [numbered, List.getElem?_cons_succ, ih, List.getElem?_cons_succ, Nat.succ_add_eq_add_succ]

theorem numbered_take (k : Nat) :
    numbered index (found.take k) = (numbered index found).take k := by
  induction found generalizing index k with
  | nil => simp [numbered]
  | cons errors found ih =>
    cases k with
    | zero => rfl
    | succ k => rw [List.take_succ_cons, numbered, numbered, ih, List.take_succ_cons]

end Batch

/-- A report on the first so many documents of a list. -/
structure BatchReport.Covers (r : BatchReport) (schema : Schema) (documents : List Json)
    (count : Nat) : Prop where
  total : r.total = documents.length
  checked : r.results.length = count
  result : ∀ (i : Nat) (document : Json), i < count → documents[i]? = some document →
    ∃ errors, schema.validate document = .ok errors ∧ r.results[i]? = some ⟨i, errors⟩
  stoppedEarly : r.stoppedEarly = true ↔ count < documents.length

namespace Batch
variable {schema : Schema} {limits low high : Limits} {documents : List Json} {r : BatchReport}

/-- What the reached documents come to is what a report is made of. -/
theorem validate_eq_ok_iff : validate schema documents limits = .ok r ↔
    ∃ found, (documents.take (reach schema limits documents)).map schema.validate =
      found.map .ok ∧ r = reportOn documents.length found := by
  simp only [validate_eq_reportOn, verdicts_eq_mapM, reachAfter_zero, map_eq_ok_iff,
    mapM_eq_ok_iff, eq_comm (b := r)]

theorem validate_eq_error_iff {f : Fault} : validate schema documents limits = .error f ↔
    FirstAt (fun d => ∃ errors, schema.validate d = .ok errors)
      (fun d => schema.validate d = .error f)
      (documents.take (reach schema limits documents)) := by
  rw [validate_eq_reportOn, verdicts_eq_mapM, reachAfter_zero, map_eq_error_iff, mapM_eq_error_iff]

theorem covers_of_validate (h : validate schema documents limits = .ok r) :
    r.Covers schema documents (reach schema limits documents) := by
  obtain ⟨found, hfound, rfl⟩ := validate_eq_ok_iff.mp h
  have hlength : found.length = reach schema limits documents := by
    have hcount := congrArg List.length hfound
    rw [List.length_map, List.length_map, List.length_take, Nat.min_eq_left reach_le] at hcount
    exact hcount.symm
  refine ⟨rfl, length_numbered.trans hlength, ?_, ?_⟩
  · intro i document hi hd
    have hreached : ((documents.take (reach schema limits documents)).map schema.validate)[i]? =
        some (schema.validate document) := by
      rw [List.getElem?_map, List.getElem?_take_of_lt hi, hd]
      rfl
    rw [hfound, List.getElem?_map, Option.map_eq_some_iff] at hreached
    obtain ⟨errors, herrors, hvalidate⟩ := hreached
    refine ⟨errors, hvalidate.symm, ?_⟩
    rw [reportOn, getElem?_numbered, herrors, Option.map_some, Nat.zero_add]
  · rw [reportOn, decide_eq_true_eq, hlength]

theorem failureCount_le {bound : Nat} (stop : ∀ n, limits.shouldStop n = false → n < bound)
    (h : validate schema documents limits = .ok r) : r.failureCount ≤ bound := by
  rw [validate_eq_reportOn] at h
  obtain ⟨found, hfound, rfl⟩ := map_eq_ok_iff.mp h
  have hle := failed_le_of_stop stop limits.shouldStop_zero hfound
  rw [BatchReport.failureCount_eq_failed, errors_reportOn]
  omega

/-- A report is valid only if every document is, those not looked at too. -/
theorem isValid_iff_documents (h : validate schema documents limits = .ok r) :
    r.isValid = true ↔ ∀ document ∈ documents, schema.validate document = .ok [] := by
  rw [validate_eq_reportOn] at h
  obtain ⟨found, hfound, rfl⟩ := map_eq_ok_iff.mp h
  rw [BatchReport.isValid_iff, errors_reportOn, ← verdicts_unfailed_iff limits.shouldStop_zero]
  constructor
  · rintro ⟨-, hf⟩
    exact ⟨found, hfound, hf⟩
  · rintro ⟨same, hsame, hf⟩
    obtain rfl : same = found := Except.ok.inj (hsame.symm.trans hfound)
    have hlength := length_of_unfailed limits.shouldStop_zero hfound hf
    exact ⟨by simp [reportOn, hlength], hf⟩

/-- The results under a run that stops sooner are the first ones under the other. -/
theorem results_isPrefix {more : BatchReport}
    (stops : ∀ n, high.shouldStop n = true → low.shouldStop n = true)
    (h : validate schema documents low = .ok r)
    (hmore : validate schema documents high = .ok more) :
    r.results <+: more.results := by
  obtain ⟨found, hfound, rfl⟩ := validate_eq_ok_iff.mp h
  obtain ⟨all, hall, rfl⟩ := validate_eq_ok_iff.mp hmore
  have hle : reach schema low documents ≤ reach schema high documents := reach_mono stops
  have hsame : found.map (Except.ok (ε := Fault)) =
      (all.take (reach schema low documents)).map .ok := by
    calc found.map .ok
        = (documents.take (reach schema low documents)).map schema.validate := hfound.symm
      _ = ((documents.take (reach schema high documents)).map schema.validate).take
            (reach schema low documents) := by
          rw [← List.map_take, List.take_take, Nat.min_eq_left hle]
      _ = (all.take (reach schema low documents)).map .ok := by rw [hall, List.map_take]
  obtain rfl := (List.map_inj_right fun _ _ => Except.ok.inj).mp hsame
  rw [reportOn, reportOn, numbered_take]
  exact List.take_prefix _ _

/-- A batch is the run over the least number of documents among which there are too many invalid
ones. It fails as the first of these that fails, and else reports on just these; it is valid when
all documents are, counts no failures past the limits, and shows the beginning of what it would
show under a higher limit. -/
theorem reports_are_exact_prefixes (schema : Schema) (documents : List Json) (limits : Limits) :
    (∀ f, validate schema documents limits = .error f ↔
      FirstAt (fun d => ∃ errors, schema.validate d = .ok errors)
        (fun d => schema.validate d = .error f)
        (documents.take (reach schema limits documents))) ∧
    (∀ r, validate schema documents limits = .ok r →
      r.Covers schema documents (reach schema limits documents) ∧
      (0 < limits.maxFailures → r.failureCount ≤ limits.maxFailures) ∧
      (limits.failFast = true → r.failureCount ≤ 1) ∧
      (r.isValid = true ↔ ∀ document ∈ documents, schema.validate document = .ok [])) ∧
    ∀ high : Limits, high.failFast = limits.failFast → 0 < limits.maxFailures →
      (high.maxFailures = 0 ∨ limits.maxFailures ≤ high.maxFailures) →
      ∀ r more, validate schema documents limits = .ok r →
        validate schema documents high = .ok more → r.results <+: more.results := by
  refine ⟨fun f => validate_eq_error_iff, ?_, ?_⟩
  · intro r h
    refine ⟨covers_of_validate h, ?_, ?_, isValid_iff_documents h⟩
    · intro hmax
      exact failureCount_le (fun n hn => (Limits.shouldStop_eq_false_iff.mp hn).2 hmax) h
    · intro fast
      refine failureCount_le (fun n hn => ?_) h
      have hzero : n = 0 := (Limits.shouldStop_eq_false_iff.mp hn).1 fast
      omega
  · intro high same hlow hle r more h hmore
    exact results_isPrefix (fun n => Limits.shouldStop_of_lower same hlow hle) h hmore

/-- With two failures allowed the batch ends at the second one, which is the last document but one;
with three it looks at all documents. -/
theorem second_failure_before_last_document :
    let arrays : Schema := .array ⟨.unset, false, none, none, true, false⟩
    let documents : List Json := [.array [], .null, .array [], .bool true, .array []]
    let two : Limits := ⟨false, 2⟩
    let three : Limits := ⟨false, 3⟩
    reach arrays two documents = 4 ∧ reach arrays three documents = 5 ∧
      ∃ r more : BatchReport, validate arrays documents two = .ok r ∧
        validate arrays documents three = .ok more ∧ r.stoppedEarly = true ∧
        more.stoppedEarly = false ∧ r.failureCount ≤ 2 ∧ more.isValid = false ∧
        r.results <+: more.results := by
  intro arrays documents two three
  have hreach : reach arrays two documents = 4 := rfl
  have hall : reach arrays three documents = 5 := rfl
  obtain ⟨-, reported, longer⟩ := reports_are_exact_prefixes arrays documents two
  obtain ⟨r, hr⟩ : ∃ r, validate arrays documents two = .ok r := ⟨_, rfl⟩
  obtain ⟨more, hmore⟩ : ∃ more, validate arrays documents three = .ok more := ⟨_, rfl⟩
  obtain ⟨covers, count, -, -⟩ := reported r hr
  obtain ⟨coversAll, -, -, valid⟩ :=
    (reports_are_exact_prefixes arrays documents three).2.1 more hmore
  refine ⟨hreach, hall, r, more, hr, hmore, ?_, ?_, count (by decide), ?_, ?_⟩
  · rw [covers.stoppedEarly, hreach]
    decide
  · rw [Bool.eq_false_iff, ne_eq, coversAll.stoppedEarly, hall]
    decide
  · rw [Bool.eq_false_iff, ne_eq, valid]
    intro h
    cases h .null (by simp [documents])
  · exact longer three rfl (by decide) (.inr (by decide)) r more hr hmore

end Batch

end Conform
