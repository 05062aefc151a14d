import Mathlib.Logic.Basic
import Conform.Proofs.Prefixes
import Conform.Proofs.Runs

/-!
Which documents a run checks, by what it is asked for and what its settings say. A number of
failures that is asked for replaces that of the settings, but settings that stop at the first
failure stop before it.
-/

namespace Conform
open Outcome Batch

variable {schema : Schema} {limits : Limits} {n : Nat} {documents checked first : List Json}
  {files : Files} {settings : Settings} {c : Console} {r : ValidateRequest}
  {documentsOf : String → List Json}

/-- The documents up to and including the `n`th invalid one; all of them if there are fewer than
`n`, or if `n` is zero. -/
inductive Batch.CountsTo (schema : Schema) (n : Nat) : List Json → List Json → Prop where
  | all {documents : List Json} (few : n = 0 ∨ invalidAmong schema documents < n) :
    CountsTo schema n documents documents
  | upTo (before rest : List Json) (last : Json) (count : invalidAmong schema before + 1 = n)
    (rejected : rejects schema last = true) :
    CountsTo schema n (before ++ last :: rest) (before ++ [last])

namespace Batch

theorem invalidAmong_take_le (schema : Schema) (documents : List Json) (k : Nat) :
    invalidAmong schema (documents.take k) ≤ invalidAmong schema documents :=
  (List.take_sublist k documents).countP_le

theorem shouldStop_number_iff {k : Nat} :
    (⟨false, n⟩ : Limits).shouldStop k = true ↔ 0 < n ∧ n ≤ k := by
  simp [Limits.shouldStop]

theorem reach_of_few (few : n = 0 ∨ invalidAmong schema documents < n) :
    reach schema ⟨false, n⟩ documents = documents.length := by
  refine Nat.le_antisymm reach_le (Nat.le_of_not_lt fun hlt => ?_)
  have hstop := shouldStop_number_iff.mp (stop_at_reach hlt)
  have hle := invalidAmong_take_le schema documents (reach schema ⟨false, n⟩ documents)
  omega

theorem take_before_last (before rest : List Json) (last : Json) :
    (before ++ last :: rest).take (before.length + 1) = before ++ [last] := by
  rw [List.take_length_add_append, List.take_succ_cons, List.take_zero]

theorem reach_of_count {before rest : List Json} {last : Json}
    (count : invalidAmong schema before + 1 = n) (rejected : rejects schema last = true) :
    reach schema ⟨false, n⟩ (before ++ last :: rest) = before.length + 1 := by
  have counted : invalidAmong schema (before ++ [last]) = n := by
    rw [← count, invalidAmong, List.countP_append, List.countP_singleton, rejected]
    rfl
  have hle : reach schema ⟨false, n⟩ (before ++ last :: rest) ≤ before.length + 1 := by
    refine reach_le_of_stop (by omega) (shouldStop_number_iff.mpr ?_)
    rw [take_before_last, counted]
    omega
  have hge : before.length < reach schema ⟨false, n⟩ (before ++ last :: rest) := by
    refine Nat.lt_of_not_le fun hshort => ?_
    have hshorter : reach schema ⟨false, n⟩ (before ++ last :: rest) <
        (before ++ last :: rest).length := by
      rw [List.length_append, List.length_cons]
      omega
    have hstop := shouldStop_number_iff.mp (stop_at_reach hshorter)
    rw [List.take_append_of_le_length hshort] at hstop
    have hfew := invalidAmong_take_le schema before
      (reach schema ⟨false, n⟩ (before ++ last :: rest))
    omega
  omega

namespace CountsTo

theorem isPrefix (h : CountsTo schema n documents checked) : checked <+: documents := by
  cases h with
  | all => exact List.prefix_rfl
  | upTo => exact ⟨_, (List.append_cons _ _ _).symm⟩

/-- Behind a first document, the count goes on with what that one leaves of it. -/
theorem cons_of_count {document : Json} {m : Nat}
    (count : (if rejects schema document then 1 else 0) + m = n) (hm : 0 < m)
    (h : CountsTo schema m documents checked) :
    CountsTo schema n (document :: documents) (document :: checked) := by
  cases h with
  | all few =>
    refine .all (.inr ?_)
    rw [invalidAmong_cons]
    omega
  | upTo _ _ _ reached rejected =>
    refine .upTo (document :: _) _ _ ?_ rejected
    rw [invalidAmong_cons]
    omega

theorem exists_checked (schema : Schema) (n : Nat) (documents : List Json) :
    ∃ checked, CountsTo schema n documents checked := by
  rcases Nat.eq_zero_or_pos n with rfl | hn
  · exact ⟨documents, .all (.inl rfl)⟩
  induction documents generalizing n with
  | nil => exact ⟨[], .all (.inr hn)⟩
  | cons document rest ih =>
    cases hd : rejects schema document with
    | false =>
      obtain ⟨checked, h⟩ := ih n hn
      exact ⟨_, h.cons_of_count (by simp [hd]) hn⟩
    | true =>
      obtain rfl | ⟨m, rfl, hm⟩ : n = 1 ∨ ∃ m, n = 1 + m ∧ 0 < m := by
        rcases Nat.eq_or_lt_of_le hn with h | h
        · exact .inl h.symm
        · exact .inr ⟨n - 1, by omega, by omega⟩
      · exact ⟨[document], .upTo [] _ _ rfl hd⟩
      · obtain ⟨checked, h⟩ := ih m hm
        exact ⟨_, h.cons_of_count (by simp [hd]) hm⟩

/-- A batch under a mere number of failures gets as far as counting to it. -/
theorem eq_take (h : CountsTo schema n documents checked) :
    checked = documents.take (reach schema ⟨false, n⟩ documents) := by
  cases h with
  | all few => rw [reach_of_few few, List.take_length]
  | upTo before rest last count rejected =>
    rw [reach_of_count count rejected, take_before_last]

theorem unique (h : CountsTo schema n documents checked) (h' : CountsTo schema n documents first) :
    checked = first := by
  rw [h.eq_take, h'.eq_take]

/-- Settings that stop at the first failure do so whatever the number of failures is. -/
theorem eq_take_of_failFast (fast : limits.failFast = true)
    (h : CountsTo schema 1 documents checked) :
    checked = documents.take (reach schema limits documents) := by
  have same : limits.shouldStop = (⟨false, 1⟩ : Limits).shouldStop := by
    funext k
    rw [Bool.eq_iff_iff]
    simp only [Limits.shouldStop, fast, Bool.true_and, Bool.false_and, Bool.false_or,
      Bool.or_eq_true, Bool.and_eq_true, decide_eq_true_eq]
    omega
  rw [h.eq_take, reach, reach, same]

end CountsTo

end Batch

/-- A run checks just these documents: it fails as the first of them without a verdict, and else
its summary holds their errors, in order. -/
def ValidateRequest.Checks (files : Files) (settings : Settings) (schema : Schema) (c : Console)
    (r : ValidateRequest) (checked : List Json) : Prop :=
  match checked.mapM schema.validate with
  | .error f => (r.run files settings c).failure? = some (.ofFault f)
  | .ok found => ∃ s, r.summary files settings schema = .ok s ∧ errorsIn s.files = found ∧
      r.run files settings c =
        ⟨c.info ("Loading schema: " ++ r.schema) ++ c.summary r.tree s, r.verdict s⟩

section Checks
variable (compatible : (r.failFast && r.maxFailures.isSome) = false)
  (present : files.exist r.schema = true) (opened : openSchema files r.schema = .ok schema)
  (loads : ∀ path ∈ r.documents, Loads files path (documentsOf path))

include compatible present opened loads

theorem ValidateRequest.checks_reached :
    r.Checks files settings schema c ((r.documents.flatMap documentsOf).take
      (reach schema (settings.limitsFor r.failFast r.maxFailures)
        (r.documents.flatMap documentsOf))) := by
  rw [Checks, ← reachAfter_zero, ← verdicts_eq_mapM]
  cases hv : verdicts schema (settings.limitsFor r.failFast r.maxFailures) 0
      (r.documents.flatMap documentsOf) with
  | error f => exact run_of_fault compatible present opened loads hv
  | ok found =>
    obtain ⟨s, hsummary, hfound, -, -⟩ :=
      run_of_verdicts (c := c) compatible present opened loads hv
    refine ⟨s, hsummary, hfound, ?_⟩
    rw [run_eq compatible present opened, hsummary]

theorem ValidateRequest.checks_of_count
    (limits : settings.limitsFor r.failFast r.maxFailures = ⟨false, n⟩)
    (h : CountsTo schema n (r.documents.flatMap documentsOf) checked) :
    r.Checks files settings schema c checked := by
  rw [h.eq_take, ← limits]
  exact checks_reached compatible present opened loads

theorem ValidateRequest.checks_of_failFast
    (fast : (settings.limitsFor r.failFast r.maxFailures).failFast = true)
    (h : CountsTo schema 1 (r.documents.flatMap documentsOf) checked) :
    r.Checks files settings schema c checked := by
  rw [h.eq_take_of_failFast fast]
  exact checks_reached compatible present opened loads

end Checks

/-- No two lists of documents with verdicts that begin the same documents are both what a run
checks. -/
theorem ValidateRequest.Checks.unique (judged : ∀ d ∈ documents, ∃ errors,
      schema.validate d = .ok errors)
    (hchecked : checked <+: documents) (hfirst : first <+: documents)
    (h : r.Checks files settings schema c checked) (h' : r.Checks files settings schema c first) :
    checked = first := by
  have verdicts_of_prefix : ∀ {l : List Json}, l <+: documents →
      ∃ found, l.mapM schema.validate = .ok found ∧ found.length = l.length := by
    intro l hl
    obtain ⟨found, hfound⟩ := mapM_ok_iff.mpr fun d hd => judged d (hl.subset hd)
    have hlength := congrArg List.length (mapM_eq_ok_iff.mp hfound)
    exact ⟨found, hfound, by simpa using hlength.symm⟩
  obtain ⟨found, hfound, hlength⟩ := verdicts_of_prefix hchecked
  obtain ⟨found', hfound', hlength'⟩ := verdicts_of_prefix hfirst
  simp only [Checks, hfound] at h
  simp only [Checks, hfound'] at h'
  obtain ⟨s, hs, rfl, -⟩ := h
  obtain ⟨s', hs', rfl, -⟩ := h'
  obtain rfl : s = s' := Except.ok.inj (hs.symm.trans hs')
  exact (List.prefix_of_prefix_length_le hchecked hfirst (by omega)).eq_of_length (by omega)

/-- What a run checks. With a number of failures that is asked for, these are the documents up to
that many invalid ones, whatever number the settings name; but settings that stop at the first
failure end the run there. A run that is asked to stop at the first failure does so under all
settings. -/
theorem asked_count_yields_to_fail_fast_settings (r : ValidateRequest) (settings : Settings)
    (c : Console) (present : files.exist r.schema = true)
    (opened : openSchema files r.schema = .ok schema)
    (loads : ∀ path ∈ r.documents, Loads files path (documentsOf path)) :
    let documents := r.documents.flatMap documentsOf
    (∀ n, r.failFast = false → r.maxFailures = some n →
      ∃ asked first, CountsTo schema n documents asked ∧ CountsTo schema 1 documents first ∧
        (settings.limits.failFast = false → r.Checks files settings schema c asked) ∧
        (settings.limits.failFast = true → r.Checks files settings schema c first) ∧
        ((∀ d ∈ documents, ∃ errors, schema.validate d = .ok errors) →
          (r.Checks files settings schema c asked ↔
            settings.limits.failFast = false ∨ asked = first))) ∧
    (r.failFast = true → r.maxFailures = none →
      ∃ first, CountsTo schema 1 documents first ∧ r.Checks files settings schema c first) := by
  intro documents
  obtain ⟨first, hfirst⟩ := CountsTo.exists_checked schema 1 documents
  constructor
  · intro n hfast hmax
    obtain ⟨asked, hasked⟩ := CountsTo.exists_checked schema n documents
    have compatible : (r.failFast && r.maxFailures.isSome) = false := by
      rw [hfast, Bool.false_and]
    have limits : settings.limitsFor r.failFast r.maxFailures =
        ⟨settings.limits.failFast, n⟩ := by
      rw [hfast, hmax]
      rfl
    have counted : settings.limits.failFast = false → r.Checks files settings schema c asked := by
      intro slow
      rw [slow] at limits
      exact ValidateRequest.checks_of_count compatible present opened loads limits hasked
    have stopped : settings.limits.failFast = true → r.Checks files settings schema c first := by
      intro fast
      refine ValidateRequest.checks_of_failFast compatible present opened loads ?_ hfirst
      rw [limits, fast]
    refine ⟨asked, first, hasked, hfirst, counted, stopped, fun judged => ⟨fun h => ?_, ?_⟩⟩
    · rw [or_iff_not_imp_left, Bool.not_eq_false]
      intro fast
      exact h.unique judged hasked.isPrefix hfirst.isPrefix (stopped fast)
    · rintro (slow | rfl)
      · exact counted slow
      · cases hs : settings.limits.failFast with
        | false => exact counted hs
        | true => exact stopped hs
  · intro hfast hmax
    have compatible : (r.failFast && r.maxFailures.isSome) = false := by
      rw [hmax, Option.isSome_none, Bool.and_false]
    refine ⟨first, hfirst, ?_⟩
    refine ValidateRequest.checks_of_failFast compatible present opened loads ?_ hfirst
    rw [hfast]
    rfl

/-- Settings as a file holds them, that stop at the first failure. -/
def hastySettings : Settings := ⟨.default, .default, ⟨true, 0⟩⟩

/-- Asked for two failures, the run ends at the first one: its summary is about one document of
three. -/
theorem second_failure_not_reached :
    let schema : Schema := .array ⟨.unset, false, none, none, true, false⟩
    let r : ValidateRequest := ⟨"s.json", ["b.jsonl"], false, some 2, false⟩
    let c : Console := ⟨.human, false, false⟩
    Settings.ofJson "\x7b\"validation\":\x7b\"fail_fast\":true\x7d\x7d" = .ok hastySettings ∧
    CountsTo schema 2 (arrayDocuments "b.jsonl") (arrayDocuments "b.jsonl") ∧
    r.Checks arrayFiles .default schema c (arrayDocuments "b.jsonl") ∧
    ¬ r.Checks arrayFiles hastySettings schema c (arrayDocuments "b.jsonl") ∧
    r.Checks arrayFiles hastySettings schema c [.number (.ofNat 1)] := by
  intro schema r c
  have settings : Settings.ofJson
      "\x7b\"validation\":\x7b\"fail_fast\":true\x7d\x7d" = .ok hastySettings := by
    have read : Json.read? "\x7b\"validation\":\x7b\"fail_fast\":true\x7d\x7d" =
        some (.object [("validation", .object [("fail_fast", .bool true)])]) := rfl
    rw [Settings.ofJson, read]
    rfl
  have two : CountsTo schema 2 (arrayDocuments "b.jsonl") (arrayDocuments "b.jsonl") :=
    .upTo [.number (.ofNat 1), .array []] [] (.number (.ofNat 2)) rfl rfl
  have one : CountsTo schema 1 (arrayDocuments "b.jsonl") [.number (.ofNat 1)] :=
    .upTo [] _ (.number (.ofNat 1)) rfl rfl
  have opened : openSchema arrayFiles r.schema = .ok schema := openSchema_arrayFiles
  have loads : ∀ path ∈ r.documents, Loads arrayFiles path (arrayDocuments path) := by
    simp [r, loads_arrayFiles]
  have judged : ∀ d ∈ arrayDocuments "b.jsonl", ∃ errors, schema.validate d = .ok errors := by
    intro d hd
    obtain rfl | rfl | rfl : d = .number (.ofNat 1) ∨ d = .array [] ∨ d = .number (.ofNat 2) := by
      simpa [arrayDocuments] using hd
    all_goals exact ⟨_, rfl⟩
  obtain ⟨asked, first, hasked, hfirst, counted, -, -⟩ :=
    (asked_count_yields_to_fail_fast_settings r .default c rfl opened loads).1 2 rfl rfl
  obtain ⟨asked', first', hasked', hfirst', -, stopped, exact'⟩ :=
    (asked_count_yields_to_fail_fast_settings r hastySettings c rfl opened loads).1 2 rfl rfl
  obtain rfl := hasked.unique two
  obtain rfl := hasked'.unique two
  obtain rfl := hfirst'.unique one
  refine ⟨settings, two, counted rfl, ?_, stopped rfl⟩
  rw [exact' judged]
  rintro (slow | same)
  · cases slow
  · cases same

end Conform
