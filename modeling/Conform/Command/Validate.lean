import Conform.Command.Outcome
import Conform.Report.Summary
import Conform.Settings.Load

/-!
Documents of several files checked against a schema.
-/

namespace Conform

/-- What to check documents against, and which. -/
structure ValidateRequest where
  schema : String
  documents : List String
  failFast : Bool
  maxFailures : Option Nat
  /-- Errors are shown as trees. -/
  tree : Bool
deriving DecidableEq, Repr

/-- The limits for what is left after so many failures. -/
def Limits.after (failures : Nat) (l : Limits) : Limits :=
  ⟨l.failFast, if 0 < l.maxFailures then l.maxFailures - failures else 0⟩

def checkFile (files : Files) (schema : Schema) (limits : Limits) (path : String) :
    Except Failure FileReport := do
  ensureExists files path
  let documents ← (Source.loadDocuments files path).mapError .source
  let batch ← (Batch.validate schema documents limits).mapError .ofFault
  return ⟨path, batch⟩

/-- The reports of files in order, after so many failures. Once the limits are reached, no further
file is opened. -/
def checkFiles (files : Files) (schema : Schema) (limits : Limits) (failures : Nat) :
    List String → Except Failure (List FileReport)
  | [] => .ok []
  | path :: rest => do
    let report ← checkFile files schema (limits.after failures) path
    let failures := failures + report.batch.failureCount
    if limits.shouldStop failures then return [report]
    else return report :: (← checkFiles files schema limits failures rest)

namespace ValidateRequest

def summary (files : Files) (settings : Settings) (schema : Schema) (r : ValidateRequest) :
    Except Failure Summary := do
  let limits := settings.limitsFor r.failFast r.maxFailures
  return ⟨r.schema, ← checkFiles files schema limits 0 r.documents⟩

/-- A run is a success if every file was opened and every document is valid. -/
def verdict (s : Summary) (r : ValidateRequest) : Option Failure :=
  if s.isValid && s.files.length == r.documents.length then none
  else some (.invalid s.failures s.checked)

def run (files : Files) (settings : Settings) (c : Console) (r : ValidateRequest) : Outcome :=
  if r.failFast && r.maxFailures.isSome then .failed "" .conflictingLimits
  else
    match ensureExists files r.schema with
    | .error f => .failed "" f
    | .ok _ =>
      let heading := c.info ("Loading schema: " ++ r.schema)
      match openSchema files r.schema with
      | .error f => .failed heading f
      | .ok schema =>
        match r.summary files settings schema with
        | .error f => .failed heading f
        | .ok s => ⟨heading ++ c.summary r.tree s, r.verdict s⟩

end ValidateRequest

end Conform
