import Mathlib.Data.List.DropRight
import Conform.Proofs.Outcome
import Conform.Proofs.Spellings
import Conform.Source.Read

/-!
Texts that hold one JSON document a line. However the lines end and whatever blank lines are among
them, the documents are read in order, and nothing else is.
-/

namespace Conform
open Outcome

variable {v : Json} {documents : List Json} {cs line rest text : List Char} {c : Char}

namespace Text

/-- How a line ends. -/
inductive LineEnd where
  | feed
  | returnFeed

def LineEnd.chars : LineEnd → List Char
  | feed => ['\n']
  | returnFeed => ['\r', '\n']

/-- A line of white space, perhaps of nothing. -/
def BlankLine (line : List Char) : Prop := ∀ c ∈ line, isBlank c = true ∧ c ≠ '\n'

instance (line : List Char) : Decidable (BlankLine line) := List.decidableBAll _ line

/-- Trimming leaves nothing of white space, and something of everything else. -/
theorem trim_eq_nil_iff : trim cs = [] ↔ cs.all isBlank = true := by
  change (cs.dropWhile isBlank).rdropWhile isBlank = [] ↔ _
  rw [List.rdropWhile_eq_nil_iff, List.all_eq_true]
  constructor
  · intro h
    by_contra hcs
    have hne : cs.dropWhile isBlank ≠ [] := by
      rwa [ne_eq, List.dropWhile_eq_nil_iff]
    have hhead := List.head_dropWhile_not isBlank hne
    rw [h _ (List.head_mem hne)] at hhead
    cases hhead
  · intro h c hc
    exact h c ((List.dropWhile_sublist isBlank).subset hc)

theorem trim_ne_nil_iff (cs : List Char) : decide (trim cs ≠ []) = !cs.all isBlank := by
  rw [Bool.eq_iff_iff, decide_eq_true_iff, ne_eq, trim_eq_nil_iff, Bool.not_eq_true',
    Bool.not_eq_true]

theorem BlankLine.not_mem (h : BlankLine line) : '\n' ∉ line := fun hmem => (h _ hmem).2 rfl

theorem linesFrom_feed (hcs : '\n' ∉ cs) : linesFrom line (cs ++ '\n' :: rest) =
    dropReturn (line.reverse ++ cs) :: linesFrom [] rest := by
  induction cs generalizing line with
  | nil => simp [linesFrom]
  | cons c cs ih =>
    rw [List.mem_cons, not_or] at hcs
    rw [List.cons_append, linesFrom, if_neg (Ne.symm hcs.1), ih hcs.2]
    simp

/-- The last line may have no end. -/
theorem linesFrom_last (hcs : '\n' ∉ cs) (hne : line.reverse ++ cs ≠ []) :
    linesFrom line cs = [line.reverse ++ cs] := by
  induction cs generalizing line with
  | nil =>
    rw [List.append_nil] at hne ⊢
    rw [linesFrom, if_neg (by simpa using hne)]
  | cons c cs ih =>
    rw [List.mem_cons, not_or] at hcs
    rw [linesFrom, if_neg (Ne.symm hcs.1), ih hcs.2 (by simp)]
    simp

/-- A text cut into its lines. A carriage return in front of a line feed is part of the line end,
and what follows the last line end is a line unless it is empty. -/
inductive Cut : List Char → List (List Char) → Prop where
  | nothing : Cut [] []
  | last {line : List Char} (hne : line ≠ []) (one : '\n' ∉ line) : Cut line [line]
  | ended {line rest : List Char} {lines : List (List Char)} (ending : LineEnd) (one : '\n' ∉ line)
    (whole : ending = .feed → line.getLast? ≠ some '\r') (more : Cut rest lines) :
    Cut (line ++ ending.chars ++ rest) (line :: lines)

theorem Cut.linesFrom_eq {lines : List (List Char)} (h : Cut text lines) :
    linesFrom [] text = lines := by
  induction h with
  | nothing => rfl
  | last hne one => exact linesFrom_last one hne
  | @ended line rest lines ending one whole more ih =>
    cases ending with
    | feed =>
      have hkept : dropReturn line = line := if_neg (whole rfl)
      rw [LineEnd.chars, List.append_assoc, List.singleton_append, linesFrom_feed one,
        List.reverse_nil, List.nil_append, hkept, ih]
    | returnFeed =>
      have hone : '\n' ∉ line ++ ['\r'] := by
        simp [one]
      have hsplit : line ++ LineEnd.returnFeed.chars ++ rest = line ++ ['\r'] ++ '\n' :: rest := by
        simp [LineEnd.chars]
      have hdropped : dropReturn (line ++ ['\r']) = line := by
        simp [dropReturn]
      rw [hsplit, linesFrom_feed hone, List.reverse_nil, List.nil_append, hdropped, ih]

/-- In front of a line end is a line, which leaves a last carriage return to a line feed. -/
theorem exists_cut_ended {lines : List (List Char)} (one : '\n' ∉ line) (ending : LineEnd)
    (more : Cut rest lines) :
    ∃ first, Cut (line ++ ending.chars ++ rest) (first :: lines) ∧ first ⊆ line ∧
      ('\r' ∉ line → first = line) := by
  by_cases whole : ending = .feed → line.getLast? ≠ some '\r'
  · exact ⟨line, .ended ending one whole more, List.Subset.refl line, fun _ => rfl⟩
  · obtain ⟨rfl, hreturn⟩ : ending = .feed ∧ line.getLast? = some '\r' := by
      simpa using whole
    obtain ⟨first, rfl⟩ := List.getLast?_eq_some_iff.mp hreturn
    have hone : '\n' ∉ first := fun hmem => one (List.mem_append_left _ hmem)
    refine ⟨first, ?_, List.subset_append_left _ _, fun hno => (hno (by simp)).elim⟩
    have hcut := Cut.ended .returnFeed hone (by simp) more
    simpa [LineEnd.chars] using hcut

theorem exists_cut (text : List Char) : ∃ lines, Cut text lines := by
  induction h : text.length using Nat.strongRecOn generalizing text with
  | ind n ih =>
    by_cases hfeed : '\n' ∈ text
    · obtain ⟨line, rest, rfl, one⟩ := List.eq_append_cons_of_mem hfeed
      have hshorter : rest.length < n := by
        rw [← h, List.length_append, List.length_cons]
        omega
      obtain ⟨lines, more⟩ := ih rest.length hshorter rest rfl
      obtain ⟨first, hcut, -⟩ := exists_cut_ended one .feed more
      refine ⟨first :: lines, ?_⟩
      rwa [LineEnd.chars, List.append_assoc, List.singleton_append] at hcut
    · by_cases hne : text = []
      · exact ⟨[], hne ▸ .nothing⟩
      · exact ⟨[text], .last hne hfeed⟩

end Text

open Text

/-- A text holds these documents, each spelled on a line of its own, among blank lines. The last
line may have no end. -/
inductive Source.Holds : List Json → List Char → Prop where
  | lastDocument (v : Json) : Holds [v] v.chars
  | lastBlank {line : List Char} (blank : BlankLine line) : Holds [] line
  | document {documents : List Json} {text : List Char} (v : Json) (ending : LineEnd)
    (more : Holds documents text) : Holds (v :: documents) (v.chars ++ ending.chars ++ text)
  | blank {documents : List Json} {text line : List Char} (blank : BlankLine line)
    (ending : LineEnd) (more : Holds documents text) :
    Holds documents (line ++ ending.chars ++ text)

namespace Source

theorem not_mem_chars (v : Json) : '\n' ∉ v.chars ∧ '\r' ∉ v.chars := by
  have printable := v.printable_chars
  exact ⟨fun h => absurd (printable _ h) (by decide), fun h => absurd (printable _ h) (by decide)⟩

/-- The lines of a text of which trimming leaves something. -/
def visible (lines : List (List Char)) : List (List Char) := lines.filter fun line => trim line ≠ []

theorem visible_cons_chars (v : Json) (lines : List (List Char)) :
    visible (v.chars :: lines) = v.chars :: visible lines := by
  obtain ⟨c, hc, hvisible⟩ := v.exists_visible
  refine List.filter_cons_of_pos ?_
  rw [trim_ne_nil_iff, Bool.not_eq_true', List.all_eq_false]
  exact ⟨c, hc, by simp [hvisible]⟩

theorem visible_cons_blank {lines : List (List Char)} (blank : BlankLine line) (hcs : cs ⊆ line) :
    visible (cs :: lines) = visible lines := by
  refine List.filter_cons_of_neg ?_
  rw [trim_ne_nil_iff, Bool.not_eq_true, Bool.not_eq_false', List.all_eq_true]
  exact fun c hc => (blank c (hcs hc)).1

/-- Of the lines of such a text, those that are not blank are the documents. -/
theorem Holds.exists_cut (h : Holds documents text) :
    ∃ lines, Cut text lines ∧ visible lines = documents.map Json.chars := by
  induction h with
  | lastDocument v =>
    obtain ⟨c, hc, -⟩ := v.exists_visible
    exact ⟨[v.chars], .last (List.ne_nil_of_mem hc) (not_mem_chars v).1, visible_cons_chars v []⟩
  | @lastBlank line blank =>
    by_cases hne : line = []
    · exact ⟨[], hne ▸ .nothing, rfl⟩
    · exact ⟨[line], .last hne blank.not_mem, visible_cons_blank blank (List.Subset.refl line)⟩
  | document v ending more ih =>
    obtain ⟨lines, hcut, hvisible⟩ := ih
    obtain ⟨hfeed, hreturn⟩ := not_mem_chars v
    obtain ⟨first, hmore, -, hfirst⟩ := exists_cut_ended hfeed ending hcut
    rw [hfirst hreturn] at hmore
    exact ⟨_, hmore, by rw [visible_cons_chars, hvisible, List.map_cons]⟩
  | blank blank ending more ih =>
    obtain ⟨lines, hcut, hvisible⟩ := ih
    obtain ⟨first, hmore, hfirst, -⟩ := exists_cut_ended blank.not_mem ending hcut
    exact ⟨_, hmore, by rw [visible_cons_blank blank hfirst, hvisible]⟩

variable {t : String} {lines : List (List Char)} {f : SourceFault}

theorem readDocuments_eq_mapM (h : Cut t.toList lines) :
    readDocuments t .jsonLines = ((visible lines).map String.ofList).mapM readJson := by
  rw [readDocuments, Text.lines, h.linesFrom_eq, List.filter_map, visible]
  simp only [Function.comp_def, allBlank, String.toList_ofList, trim_ne_nil_iff]

theorem readJson_eq_ok_iff : readJson t = .ok v ↔ Json.parse? t = some v := by
  unfold readJson
  cases Json.parse? t <;> simp

theorem malformed_of_readJson (h : readJson t = .error f) : f = .json .malformed := by
  unfold readJson at h
  cases hv : Json.parse? t with
  | none =>
    rw [hv] at h
    exact (Except.error.inj h).symm
  | some v =>
    rw [hv] at h
    cases h

theorem Holds.readDocuments (h : Holds documents t.toList)
    (readable : ∀ v ∈ documents, v.WellKeyed ∧ v.depth ≤ Json.Reader.maxDepth)
    (free : ∀ v ∈ documents, v.Unreserved) : readDocuments t .jsonLines = .ok documents := by
  obtain ⟨lines, hcut, hvisible⟩ := h.exists_cut
  rw [readDocuments_eq_mapM hcut, hvisible, mapM_eq_ok_iff, List.map_map, List.map_map]
  refine List.map_congr_left fun v hv => ?_
  obtain ⟨keyed, nested⟩ := readable v hv
  exact readJson_eq_ok_iff.mpr (keyed.parse?_compress nested (free v hv))

/-- What is read are the values that the lines spell. -/
theorem parse?_of_readDocuments (hcut : Cut t.toList lines)
    (h : readDocuments t .jsonLines = .ok documents) :
    (visible lines).map (fun line => Json.parse? (String.ofList line)) = documents.map some := by
  rw [readDocuments_eq_mapM hcut] at h
  have hlines : documents.map some = ((visible lines).map String.ofList).map Json.parse? :=
    map_eq_of_mapM h fun line v hv => (readJson_eq_ok_iff.mp hv).symm
  rw [hlines, List.map_map]
  rfl

theorem unreserved_of_readDocuments (h : readDocuments t .jsonLines = .ok documents) :
    ∀ v ∈ documents, v.Unreserved := by
  intro v hv
  obtain ⟨lines, hcut⟩ := exists_cut t.toList
  have hmem : some v ∈ documents.map some := List.mem_map_of_mem hv
  rw [← parse?_of_readDocuments hcut h] at hmem
  obtain ⟨line, -, hline⟩ := List.mem_map.mp hmem
  exact Json.unreserved_of_parse? hline

theorem malformed_of_readDocuments (hcut : Cut t.toList lines)
    (h : readDocuments t .jsonLines = .error f) : f = .json .malformed := by
  rw [readDocuments_eq_mapM hcut, mapM_eq_error_iff] at h
  obtain ⟨line, -, hline⟩ := h.exists_mem
  exact malformed_of_readJson hline

/-- Documents on lines of their own are read in order, however the lines end and whatever blank
lines are among them, unless there is an object in them that would be taken for a number. Whatever
the text is, it is read if every line that is not blank spells a value, and gives these values; else
it fails on the file that it is in. -/
theorem document_lines_are_exact (path : String) :
    (∀ (documents : List Json) (text : String), Holds documents text.toList →
      (∀ v ∈ documents, v.WellKeyed ∧ v.depth ≤ Json.Reader.maxDepth) →
      (located path (readDocuments text .jsonLines) = .ok documents ↔
        ∀ v ∈ documents, v.Unreserved)) ∧
    ∀ text : String, ∃ lines, Cut text.toList lines ∧
      ((∃ documents, located path (readDocuments text .jsonLines) = .ok documents) ↔
        ∀ line ∈ visible lines, ∃ v, Json.parse? (String.ofList line) = some v) ∧
      (∀ documents, located path (readDocuments text .jsonLines) = .ok documents →
        documents.length = (visible lines).length ∧
          (visible lines).map (fun line => Json.parse? (String.ofList line)) =
            documents.map some) ∧
      ((¬ ∃ documents, located path (readDocuments text .jsonLines) = .ok documents) →
        located path (readDocuments text .jsonLines) = .error ⟨path, .json .malformed⟩) := by
  have located_ok {text : String} {documents : List Json} :
      located path (readDocuments text .jsonLines) = .ok documents ↔
        readDocuments text .jsonLines = .ok documents := mapError_eq_ok_iff
  constructor
  · intro documents text h readable
    rw [located_ok]
    exact ⟨unreserved_of_readDocuments, h.readDocuments readable⟩
  intro text
  obtain ⟨lines, hcut⟩ := exists_cut text.toList
  refine ⟨lines, hcut, ?_, ?_, ?_⟩
  · rw [exists_congr fun _ => located_ok, readDocuments_eq_mapM hcut, mapM_ok_iff]
    simp only [List.forall_mem_map, readJson_eq_ok_iff]
  · intro documents h
    have hlines := parse?_of_readDocuments hcut (located_ok.mp h)
    have hlength := congrArg List.length hlines
    rw [List.length_map, List.length_map] at hlength
    exact ⟨hlength.symm, hlines⟩
  · intro hnot
    cases hr : readDocuments text .jsonLines with
    | ok documents => exact (hnot ⟨documents, located_ok.mpr hr⟩).elim
    | error f =>
      rw [malformed_of_readDocuments hcut hr]
      rfl

/-- Three documents behind blank lines of several kinds. A text with a line that spells no value is
not read. -/
theorem documents_among_blank_lines :
    let documents : List Json :=
      [.object [("a", .array [.number (.ofNat 1), .null])], .string "x\ny", .bool true]
    let text := "\u2003\r\n\x7b\"a\":[1,null]\x7d\r\n\n\"x\\ny\"\n \t\ntrue"
    Holds documents text.toList ∧
      located "d.jsonl" (readDocuments text .jsonLines) = .ok documents ∧
      located "d.jsonl" (readDocuments "true\n[\n" .jsonLines) =
        .error ⟨"d.jsonl", .json .malformed⟩ := by
  intro documents text
  let record : Json := .object [("a", .array [.number (.ofNat 1), .null])]
  have wide : BlankLine ['\u2003'] := by decide
  have none : BlankLine [] := by decide
  have narrow : BlankLine [' ', '\t'] := by decide
  have holds : Holds documents text.toList := by
    have h := Holds.blank wide .returnFeed (.document record .returnFeed (.blank none .feed
      (.document (.string "x\ny") .feed (.blank narrow .feed (.lastDocument (.bool true))))))
    exact Eq.mp (congrArg (Holds documents) (by decide +kernel)) h
  have readable : ∀ v ∈ documents, v.WellKeyed ∧ v.depth ≤ Json.Reader.maxDepth := by
    have keyed : record.WellKeyed := Json.wellKeyed_mergeKeys record
    simp only [documents, List.forall_mem_cons]
    exact ⟨⟨keyed, by decide⟩, ⟨.string, by decide⟩, ⟨.bool, by decide⟩, by simp⟩
  have free : ∀ v ∈ documents, v.Unreserved := by
    have inside : ∀ v ∈ [Json.number (.ofNat 1), .null], v.Unreserved := by
      simp [Json.Unreserved.number, Json.Unreserved.null]
    simp only [documents, List.forall_mem_cons]
    exact ⟨.object rfl (by simp [Json.Unreserved.array inside]), .string, .bool, by simp⟩
  obtain ⟨reads, fails⟩ := document_lines_are_exact "d.jsonl"
  refine ⟨holds, (reads documents text holds readable).mpr free, ?_⟩
  obtain ⟨lines, hcut, readable_iff, -, malformed⟩ := fails "true\n[\n"
  obtain rfl := hcut.linesFrom_eq
  refine malformed ?_
  rw [readable_iff]
  intro h
  obtain ⟨v, hv⟩ := h ['['] (by decide +kernel)
  have hnone : Json.parse? (String.ofList ['[']) = .none := by decide +kernel
  rw [hnone] at hv
  cases hv

end Source

end Conform
