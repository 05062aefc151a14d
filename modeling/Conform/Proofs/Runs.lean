import Conform.Command.Validate
import Conform.Proofs.Batches

/-!
Runs over several files. The failures so far are carried from file to file, and what is left of
the limits with them, so a run finds what one batch over all documents finds.
-/

namespace Conform
open Outcome Batch

variable {limits : Limits} {failures count : Nat} {files : Files} {schema : Schema}
  {path : String} {paths : List String} {documents : List Json}

namespace Limits

/-- What is left of limits that are not reached is reached when they are. -/
theorem shouldStop_after (go : limits.shouldStop failures = false) :
    (limits.after failures).shouldStop count = limits.shouldStop (failures + count) := by
  have hiff : (limits.after failures).shouldStop count = false ↔
      limits.shouldStop (failures + count) = false := by
    obtain ⟨hfast, hmax⟩ := shouldStop_eq_false_iff.mp go
    rw [shouldStop_eq_false_iff, shouldStop_eq_false_iff]
    refine and_congr (forall_congr' fun hf => ?_) ?_
    · have := hfast hf
      omega
    · by_cases hm : 0 < limits.maxFailures
      · have := hmax hm
        simp only [after, if_pos hm]
        omega
      · simp only [after, if_neg hm]
        omega
  cases h : limits.shouldStop (failures + count) with
  | true => simpa [h] using hiff
  | false => exact hiff.mpr h

/-- A limit that is not reached leaves something, and so never turns into no limit at all. -/
theorem after_positive (go : limits.shouldStop failures = false) (h : 0 < limits.maxFailures) :
    0 < (limits.after failures).maxFailures := by
  have := (shouldStop_eq_false_iff.mp go).2 h
  rw [after, if_pos h]
  exact Nat.sub_pos_of_lt this

end Limits

theorem Batch.verdicts_after (go : limits.shouldStop failures = false) :
    verdicts schema (limits.after failures) count documents =
      verdicts schema limits (failures + count) documents := by
  induction documents generalizing count with
  | nil => rfl
  | cons document rest ih =>
    rw [verdicts, verdicts]
    cases schema.validate document with
    | error f => rfl
    | ok errors =>
      rw [ok_bind, ok_bind, Limits.shouldStop_after go, ih, Nat.add_assoc]

/-- A file is there and holds these documents. -/
structure Loads (files : Files) (path : String) (documents : List Json) : Prop where
  present : files.exist path = true
  loaded : Source.loadDocuments files path = .ok documents

theorem Source.loadValue_of_contents {format : Format} {text : String}
    (h : contents files path = .ok (format, text)) :
    loadValue files path = located path (readValue text format) := by
  rw [loadValue, h]
  rfl

theorem Source.loadDocuments_of_contents {format : Format} {text : String}
    (h : contents files path = .ok (format, text)) :
    loadDocuments files path = located path (readDocuments text format) := by
  rw [loadDocuments, h]
  rfl

/-- A run comes to a file after so many failures: the files before it are checked, and the limits
are not reached by what they hold. -/
inductive ComesTo (files : Files) (schema : Schema) (limits : Limits) :
    Nat → List String → Nat → String → Prop where
  | here {failures : Nat} {path : String} {rest : List String} :
    ComesTo files schema limits failures (path :: rest) failures path
  | later {failures count : Nat} {first path : String} {rest : List String} {report : FileReport}
    (checked : checkFile files schema (limits.after failures) first = .ok report)
    (go : limits.shouldStop (failures + report.batch.failureCount) = false)
    (h : ComesTo files schema limits (failures + report.batch.failureCount) rest count path) :
    ComesTo files schema limits failures (first :: rest) count path

theorem ComesTo.not_stopped (h : ComesTo files schema limits failures paths count path)
    (go : limits.shouldStop failures = false) : limits.shouldStop count = false := by
  induction h with
  | here => exact go
  | later _ next _ ih => exact ih next

/-- The errors of all documents in reports on files, in order. -/
def errorsIn (reports : List FileReport) : List ErrorMap := reports.flatMap (·.batch.errors)

theorem checkFile_eq (h : Loads files path documents) :
    checkFile files schema limits path =
      (verdicts schema limits 0 documents).mapError Failure.ofFault >>=
        fun found => .ok ⟨path, reportOn documents.length found⟩ := by
  rw [checkFile, ensureExists, if_pos h.present, ok_bind, h.loaded]
  change (do
    let batch ← (validate schema documents limits).mapError Failure.ofFault
    return (⟨path, batch⟩ : FileReport)) = _
  rw [validate_eq_reportOn]
  cases verdicts schema limits 0 documents <;> rfl

/-- One file more. -/
theorem checkFiles_cons (h : Loads files path documents)
    (go : limits.shouldStop failures = false) :
    checkFiles files schema limits failures (path :: paths) =
      (verdicts schema limits failures documents).mapError Failure.ofFault >>= fun first =>
        let report := ⟨path, reportOn documents.length first⟩
        if limits.shouldStop (failures + failed first) then .ok [report]
        else
          (checkFiles files schema limits (failures + failed first) paths).map (report :: ·) := by
  rw [checkFiles, checkFile_eq h, verdicts_after go, Nat.add_zero]
  cases verdicts schema limits failures documents with
  | error f => rfl
  | ok first =>
    simp only [ok_mapError, ok_bind, BatchReport.failureCount_eq_failed, errors_reportOn]
    split
    · rfl
    · cases checkFiles files schema limits (failures + failed first) paths <;> rfl

variable {documentsOf : String → List Json} {reports : List FileReport}

/-- The errors that a run over files finds are those of one run over all their documents. -/
theorem errorsIn_checkFiles (loads : ∀ path ∈ paths, Loads files path (documentsOf path))
    (go : limits.shouldStop failures = false) :
    (checkFiles files schema limits failures paths).map errorsIn =
      (verdicts schema limits failures (paths.flatMap documentsOf)).mapError Failure.ofFault := by
  induction paths generalizing failures with
  | nil => rfl
  | cons path paths ih =>
    rw [checkFiles_cons (loads path (by simp)) go, List.flatMap_cons, verdicts_append go]
    cases verdicts schema limits failures (documentsOf path) with
    | error f => rfl
    | ok first =>
      simp only [ok_mapError, ok_bind]
      cases hs : limits.shouldStop (failures + failed first) with
      | true => simp [errorsIn, errors_reportOn]
      | false =>
        have hrest := ih (fun p hp => loads p (by simp [hp])) hs
        simp only [Bool.false_eq_true, if_false]
        calc
          _ = ((checkFiles files schema limits (failures + failed first) paths).map errorsIn).map
              (first ++ ·) := by
            rw [map_map, map_map]
            simp only [errorsIn, List.flatMap_cons, errors_reportOn]
          _ = ((verdicts schema limits (failures + failed first)
              (paths.flatMap documentsOf)).mapError Failure.ofFault).map (first ++ ·) := by
            rw [hrest]
          _ = _ := (mapError_map _ _ _).symm

theorem checkFiles_of_fault (loads : ∀ path ∈ paths, Loads files path (documentsOf path))
    (go : limits.shouldStop failures = false) {f : Fault}
    (h : verdicts schema limits failures (paths.flatMap documentsOf) = .error f) :
    checkFiles files schema limits failures paths = .error (.ofFault f) := by
  have hfound : (checkFiles files schema limits failures paths).map errorsIn =
      .error (.ofFault f) := by
    rw [errorsIn_checkFiles loads go, h]
    rfl
  exact map_eq_error_iff.mp hfound

theorem checkFiles_of_verdicts (loads : ∀ path ∈ paths, Loads files path (documentsOf path))
    (go : limits.shouldStop failures = false) {found : List ErrorMap}
    (h : verdicts schema limits failures (paths.flatMap documentsOf) = .ok found) :
    ∃ reports, checkFiles files schema limits failures paths = .ok reports ∧
      errorsIn reports = found := by
  have hfound : (checkFiles files schema limits failures paths).map errorsIn = .ok found := by
    rw [errorsIn_checkFiles loads go, h]
    rfl
  exact map_eq_ok_iff.mp hfound

/-- A run that finds nothing wrong has checked every file to its end. -/
theorem complete_of_unfailed (loads : ∀ path ∈ paths, Loads files path (documentsOf path))
    (go : limits.shouldStop failures = false)
    (h : checkFiles files schema limits failures paths = .ok reports)
    (hf : failed (errorsIn reports) = 0) :
    reports.length = paths.length ∧ ∀ report ∈ reports, report.batch.stoppedEarly = false := by
  induction paths generalizing reports with
  | nil =>
    cases h
    simp
  | cons path paths ih =>
    rw [checkFiles_cons (loads path (by simp)) go, bind_eq_ok_iff] at h
    obtain ⟨first, hfirst, h⟩ := h
    rw [mapError_eq_ok_iff] at hfirst
    dsimp only at h
    split at h
    · rename_i hs
      cases h
      have hzero : failed first = 0 := by simpa [errorsIn, errors_reportOn] using hf
      rw [hzero, Nat.add_zero, go] at hs
      cases hs
    · obtain ⟨rest, hrest, rfl⟩ := map_eq_ok_iff.mp h
      obtain ⟨hzero, hmore⟩ : failed first = 0 ∧ failed (errorsIn rest) = 0 := by
        simpa [errorsIn, errors_reportOn] using hf
      rw [hzero, Nat.add_zero] at hrest
      obtain ⟨hlength, hall⟩ := ih (fun p hp => loads p (by simp [hp])) hrest hmore
      have hread := length_of_unfailed go hfirst hzero
      refine ⟨by simp [hlength], ?_⟩
      intro report hreport
      rcases List.mem_cons.mp hreport with rfl | hreport
      · simp [reportOn, hread]
      · exact hall report hreport

/-- Every report of a run is on a file that the run comes to, under what is left of the limits. -/
theorem comesTo_of_mem {report : FileReport}
    (h : checkFiles files schema limits failures paths = .ok reports) (hr : report ∈ reports) :
    ∃ count, ComesTo files schema limits failures paths count report.path ∧
      checkFile files schema (limits.after count) report.path = .ok report := by
  induction paths generalizing failures reports with
  | nil =>
    cases h
    cases hr
  | cons path paths ih =>
    rw [checkFiles, bind_eq_ok_iff] at h
    obtain ⟨first, hfirst, h⟩ := h
    have hpath : first.path = path := by
      simp only [checkFile, bind_eq_ok_iff] at hfirst
      obtain ⟨_, _, _, _, _, _, heq⟩ := hfirst
      cases heq
      rfl
    have here : ∃ count, ComesTo files schema limits failures (path :: paths) count first.path ∧
        checkFile files schema (limits.after count) first.path = .ok first := by
      rw [hpath]
      exact ⟨failures, .here, hfirst⟩
    dsimp only at h
    split at h
    · cases h
      rw [List.mem_singleton] at hr
      rw [hr]
      exact here
    · rename_i hs
      obtain ⟨rest, hrest, heq⟩ := bind_eq_ok_iff.mp h
      cases heq
      rcases List.mem_cons.mp hr with rfl | hr
      · exact here
      · obtain ⟨count, hc, hcheck⟩ := ih hrest hr
        exact ⟨count, .later hfirst (by simpa using hs) hc, hcheck⟩

theorem Failure.ofFault_inj {f g : Fault} : ofFault f = ofFault g ↔ f = g := by
  cases f <;> cases g <;> simp [ofFault]

theorem Failure.ofFault_ne_invalid (f : Fault) (failures checked : Nat) :
    ofFault f ≠ invalid failures checked := by
  cases f <;> simp [ofFault]

namespace Summary
variable (s : Summary)

theorem checked_eq_length : s.checked = (errorsIn s.files).length := by
  unfold checked errorsIn
  induction s.files with
  | nil => rfl
  | cons report rest ih =>
    rw [List.foldr_cons, ih, List.flatMap_cons, List.length_append, BatchReport.checked_eq_length]

theorem failures_eq_failed : s.failures = failed (errorsIn s.files) := by
  unfold failures errorsIn
  induction s.files with
  | nil => rfl
  | cons report rest ih =>
    rw [List.foldr_cons, ih, List.flatMap_cons, failed_append, BatchReport.failureCount_eq_failed]

theorem isValid_iff : s.isValid = true ↔
    (∀ report ∈ s.files, report.batch.stoppedEarly = false) ∧ s.failures = 0 := by
  rw [failures_eq_failed]
  unfold isValid errorsIn
  induction s.files with
  | nil => simp
  | cons report rest ih =>
    simp only [List.all_cons, Bool.and_eq_true, BatchReport.isValid_iff, ih, List.flatMap_cons,
      failed_append, List.forall_mem_cons]
    constructor
    · rintro ⟨⟨hs, hf⟩, hrest, hmore⟩
      exact ⟨⟨hs, hrest⟩, by omega⟩
    · rintro ⟨⟨hs, hrest⟩, hf⟩
      exact ⟨⟨hs, by omega⟩, hrest, by omega⟩

/-- A run over files tells of their documents what a batch does. -/
structure Matches (s : Summary) (batch : BatchReport) : Prop where
  verdicts : (s.files.flatMap fun report => report.batch.results).map
      (fun d => (d.valid, d.errors)) = batch.results.map fun d => (d.valid, d.errors)
  checked : s.checked = batch.checked
  failures : s.failures = batch.failureCount

theorem matches_of_errors {s : Summary} {batch : BatchReport}
    (h : errorsIn s.files = batch.errors) : s.Matches batch := by
  refine ⟨?_, ?_, ?_⟩
  · have pairs : ∀ results : List DocumentResult, results.map (fun d => (d.valid, d.errors)) =
        (results.map (·.errors)).map fun errors => (errors.isEmpty, errors) := by
      intro results
      rw [List.map_map]
      rfl
    rw [pairs, pairs, List.map_flatMap]
    exact congrArg _ h
  · rw [checked_eq_length, h, BatchReport.checked_eq_length]
  · rw [failures_eq_failed, h, BatchReport.failureCount_eq_failed]

end Summary

theorem ValidateRequest.verdict_eq (r : ValidateRequest)
    (loads : ∀ path ∈ r.documents, Loads files path (documentsOf path))
    (h : checkFiles files schema limits 0 r.documents = .ok reports) :
    let s : Summary := ⟨r.schema, reports⟩
    r.verdict s = if s.failures = 0 then none else some (.invalid s.failures s.checked) := by
  intro s
  have hvalid : (s.isValid && s.files.length == r.documents.length) = true ↔ s.failures = 0 := by
    rw [Bool.and_eq_true, s.isValid_iff]
    constructor
    · rintro ⟨⟨-, hf⟩, -⟩
      exact hf
    · intro hf
      rw [s.failures_eq_failed] at hf
      obtain ⟨hlength, hall⟩ := complete_of_unfailed loads limits.shouldStop_zero h hf
      rw [s.failures_eq_failed]
      exact ⟨⟨hall, hf⟩, by simp [s, hlength]⟩
  unfold ValidateRequest.verdict
  by_cases hf : s.failures = 0
  · rw [if_pos (hvalid.mpr hf), if_pos hf]
  · rw [if_neg (mt hvalid.mp hf), if_neg hf]

theorem ValidateRequest.summary_eq (r : ValidateRequest) (settings : Settings) :
    r.summary files settings schema =
      (checkFiles files schema (settings.limitsFor r.failFast r.maxFailures) 0 r.documents).map
        fun reports => ⟨r.schema, reports⟩ := by
  unfold summary
  dsimp only
  cases checkFiles files schema (settings.limitsFor r.failFast r.maxFailures) 0 r.documents <;> rfl

section Run
variable {r : ValidateRequest} {settings : Settings} {c : Console}

/-- Once the schema is read, the outcome of a run is told by what its files hold. -/
theorem ValidateRequest.run_eq (compatible : (r.failFast && r.maxFailures.isSome) = false)
    (present : files.exist r.schema = true) (opened : openSchema files r.schema = .ok schema) :
    r.run files settings c =
      let heading := c.info ("Loading schema: " ++ r.schema)
      match r.summary files settings schema with
      | .error f => .failed heading f
      | .ok s => ⟨heading ++ c.summary r.tree s, r.verdict s⟩ := by
  unfold run
  rw [compatible, ensureExists, if_pos present, opened]
  rfl

/-- A fault in any document that is checked is the failure of the run. -/
theorem ValidateRequest.run_of_fault (compatible : (r.failFast && r.maxFailures.isSome) = false)
    (present : files.exist r.schema = true) (opened : openSchema files r.schema = .ok schema)
    (loads : ∀ path ∈ r.documents, Loads files path (documentsOf path)) {f : Fault}
    (h : verdicts schema (settings.limitsFor r.failFast r.maxFailures) 0
      (r.documents.flatMap documentsOf) = .error f) :
    (r.run files settings c).failure? = some (.ofFault f) := by
  rw [run_eq compatible present opened, summary_eq,
    checkFiles_of_fault loads (Limits.shouldStop_zero _) h]
  rfl

/-- Without a fault a run has a summary, and fails only by its count of invalid documents. -/
theorem ValidateRequest.run_of_verdicts
    (compatible : (r.failFast && r.maxFailures.isSome) = false)
    (present : files.exist r.schema = true) (opened : openSchema files r.schema = .ok schema)
    (loads : ∀ path ∈ r.documents, Loads files path (documentsOf path)) {found : List ErrorMap}
    (h : verdicts schema (settings.limitsFor r.failFast r.maxFailures) 0
      (r.documents.flatMap documentsOf) = .ok found) :
    ∃ s, r.summary files settings schema = .ok s ∧ errorsIn s.files = found ∧
      checkFiles files schema (settings.limitsFor r.failFast r.maxFailures) 0 r.documents =
        .ok s.files ∧
      r.run files settings c =
        ⟨c.info ("Loading schema: " ++ r.schema) ++ c.summary r.tree s,
          if s.failures = 0 then none else some (.invalid s.failures s.checked)⟩ := by
  obtain ⟨reports, hreports, hfound⟩ :=
    checkFiles_of_verdicts loads (Limits.shouldStop_zero _) h
  have hsummary : r.summary files settings schema = .ok ⟨r.schema, reports⟩ := by
    rw [summary_eq, hreports]
    rfl
  refine ⟨⟨r.schema, reports⟩, hsummary, hfound, hreports, ?_⟩
  rw [run_eq compatible present opened, hsummary]
  dsimp only
  rw [r.verdict_eq loads hreports]

/-- A run over files that can be read is one batch over all their documents: it fails on the same
fault, and otherwise tells of the same documents the same. Its failures stay within the limit, no
file is checked with nothing left of a limit, and it succeeds exactly if every document of every
file is valid. -/
theorem run_matches_batch (r : ValidateRequest) (settings : Settings) (c : Console)
    (compatible : (r.failFast && r.maxFailures.isSome) = false)
    (present : files.exist r.schema = true) (opened : openSchema files r.schema = .ok schema)
    (loads : ∀ path ∈ r.documents, Loads files path (documentsOf path)) :
    let limits := settings.limitsFor r.failFast r.maxFailures
    let documents := r.documents.flatMap documentsOf
    let outcome := r.run files settings c
    (∀ f, outcome.failure? = some (.ofFault f) ↔
      Batch.validate schema documents limits = .error f) ∧
    (∀ batch, Batch.validate schema documents limits = .ok batch →
      ∃ s, r.summary files settings schema = .ok s ∧ s.Matches batch ∧
        outcome.text = c.info ("Loading schema: " ++ r.schema) ++ c.summary r.tree s ∧
        (0 < limits.maxFailures → s.failures ≤ limits.maxFailures) ∧
        (∀ report ∈ s.files, ∃ count,
          ComesTo files schema limits 0 r.documents count report.path ∧
            checkFile files schema (limits.after count) report.path = .ok report) ∧
        (outcome.failure? ≠ none →
          0 < s.failures ∧ outcome.failure? = some (.invalid s.failures s.checked))) ∧
    (∀ count path, ComesTo files schema limits 0 r.documents count path →
      0 < limits.maxFailures → 0 < (limits.after count).maxFailures) ∧
    (outcome.failure? = none ↔ ∀ d ∈ documents, schema.validate d = .ok []) := by
  intro limits documents outcome
  have start : limits.shouldStop 0 = false := limits.shouldStop_zero
  have budget : ∀ count path, ComesTo files schema limits 0 r.documents count path →
      0 < limits.maxFailures → 0 < (limits.after count).maxFailures := by
    intro count path h
    exact Limits.after_positive (h.not_stopped start)
  have valid : (∃ found, verdicts schema limits 0 documents = .ok found ∧ failed found = 0) ↔
      ∀ d ∈ documents, schema.validate d = .ok [] := verdicts_unfailed_iff start
  rw [validate_eq_reportOn, ← valid]
  cases hv : verdicts schema limits 0 documents with
  | error f =>
    have hfailure : outcome.failure? = some (.ofFault f) :=
      ValidateRequest.run_of_fault compatible present opened loads hv
    refine ⟨?_, ?_, budget, ?_⟩
    · intro g
      rw [hfailure, error_map, Option.some.injEq, Failure.ofFault_inj, Except.error.injEq]
    · intro batch h
      cases h
    · simp [hfailure]
  | ok found =>
    obtain ⟨s, hsummary, rfl, hfiles, hrun⟩ :=
      ValidateRequest.run_of_verdicts compatible present opened loads hv
    have hfailure : outcome.failure? =
        if s.failures = 0 then none else some (.invalid s.failures s.checked) :=
      congrArg Outcome.failure? hrun
    refine ⟨?_, ?_, budget, ?_⟩
    · intro g
      rw [hfailure]
      split <;> simp [(Failure.ofFault_ne_invalid g _ _).symm]
    · intro batch h
      cases h
      refine ⟨s, hsummary, Summary.matches_of_errors errors_reportOn.symm,
        congrArg Outcome.text hrun, ?_, fun report => comesTo_of_mem hfiles, ?_⟩
      · intro hmax
        have hle := failed_le_of_verdicts hmax start hv
        rw [s.failures_eq_failed]
        omega
      · intro hne
        rw [hfailure] at hne ⊢
        split at hne
        · exact (hne rfl).elim
        · rename_i hzero
          exact ⟨Nat.pos_of_ne_zero hzero, if_neg hzero⟩
    · simp [hfailure, s.failures_eq_failed]

/-- A schema for arrays, a document that is one, and three documents of which one is. -/
def arrayFiles : Files where
  entry? path := Assoc.lookup path [("s.json", .text "\x7b\"type\":\"array\"\x7d"),
    ("a.json", .text "[]"), ("b.jsonl", .text "1\n[]\n2\n")]

def arrayDocuments (path : String) : List Json :=
  if path = "a.json" then [.array []] else [.number (.ofNat 1), .array [], .number (.ofNat 2)]

theorem openSchema_arrayFiles :
    openSchema arrayFiles "s.json" = .ok (.array ⟨.unset, false, none, none, true, false⟩) := by
  have held : Source.contents arrayFiles "s.json" =
      .ok (.json, "\x7b\"type\":\"array\"\x7d") := rfl
  have read : Json.read? "\x7b\"type\":\"array\"\x7d" =
      some (.object [("type", .string "array")]) := rfl
  have parsed : Json.parse? "\x7b\"type\":\"array\"\x7d" =
      some (.object [("type", .string "array")]) := by
    rw [Json.parse?, read]
    rfl
  have value :
      Source.loadValue arrayFiles "s.json" = .ok (.object [("type", .string "array")]) := by
    rw [Source.loadValue_of_contents held, Source.readValue, Source.readJson, parsed]
    rfl
  rw [openSchema, Source.loadSchema, value]
  rfl

theorem loads_arrayFiles {path : String} (h : path = "a.json" ∨ path = "b.jsonl") :
    Loads arrayFiles path (arrayDocuments path) := by
  rcases h with rfl | rfl
  · exact ⟨rfl, rfl⟩
  · have held : Source.contents arrayFiles "b.jsonl" = .ok (.jsonLines, "1\n[]\n2\n") := rfl
    have lines : ((Text.lines "1\n[]\n2\n").filter fun line => !Text.allBlank line) =
        ["1", "[]", "2"] := rfl
    refine ⟨rfl, ?_⟩
    rw [Source.loadDocuments_of_contents held, Source.readDocuments, lines]
    rfl

/-- The third failure is in a file that is read a second time, with a limit of one left for it. -/
theorem limit_reached_in_last_file :
    let r : ValidateRequest := ⟨"s.json", ["b.jsonl", "a.json", "b.jsonl"], false, some 3, false⟩
    let schema : Schema := .array ⟨.unset, false, none, none, true, false⟩
    openSchema arrayFiles r.schema = .ok schema ∧
    (∀ path ∈ r.documents, Loads arrayFiles path (arrayDocuments path)) ∧
    ∃ s, r.summary arrayFiles .default schema = .ok s ∧ s.checked = 5 ∧ s.failures = 3 ∧
      (r.run arrayFiles .default ⟨.human, false, false⟩).failure? = some (.invalid 3 5) := by
  intro r schema
  have loads : ∀ path ∈ r.documents, Loads arrayFiles path (arrayDocuments path) := by
    simp [r, loads_arrayFiles]
  let wrong : ErrorMap := Message.wrongType.errors
  have batch : Batch.validate schema (r.documents.flatMap arrayDocuments) ⟨false, 3⟩ =
      .ok ⟨[⟨0, wrong⟩, ⟨1, []⟩, ⟨2, wrong⟩, ⟨3, []⟩, ⟨4, wrong⟩], 7, true⟩ := rfl
  obtain ⟨-, summary, -, valid⟩ :=
    run_matches_batch r .default ⟨.human, false, false⟩ rfl rfl openSchema_arrayFiles loads
  obtain ⟨s, hs, same, -, -, -, failure⟩ := summary _ batch
  have invalid : (r.run arrayFiles .default ⟨.human, false, false⟩).failure? ≠ none := by
    intro h
    have first := valid.mp h (.number (.ofNat 1)) (by simp [r, arrayDocuments])
    cases first
  have checked : s.checked = 5 := same.checked
  have failures : s.failures = 3 := same.failures
  refine ⟨openSchema_arrayFiles, loads, s, hs, checked, failures, ?_⟩
  rw [(failure invalid).2, checked, failures]

end Run

end Conform
