import Conform.Property

/-!
Many documents against one schema, up to a limit of invalid ones.
-/

namespace Conform

/-- When to stop; no failure is too many where `maxFailures` is zero. -/
structure Limits where
  failFast : Bool
  maxFailures : Nat
deriving DecidableEq, Repr

/-- Whether to stop after so many invalid documents. -/
def Limits.shouldStop (l : Limits) (failures : Nat) : Bool :=
  (l.failFast && failures > 0) || (l.maxFailures > 0 && l.maxFailures ≤ failures)

structure DocumentResult where
  index : Nat
  errors : ErrorMap

def DocumentResult.valid (r : DocumentResult) : Bool := r.errors.isEmpty

structure BatchReport where
  results : List DocumentResult
  total : Nat
  stoppedEarly : Bool

namespace BatchReport

/-- Every document was checked and is valid. -/
def isValid (r : BatchReport) : Bool := !r.stoppedEarly && r.results.all (·.valid)

def checked (r : BatchReport) : Nat := r.results.length

def failures (r : BatchReport) : List DocumentResult := r.results.filter fun d => !d.valid

def failureCount (r : BatchReport) : Nat := r.failures.length

def toJson (r : BatchReport) : Json :=
  .object [
    ("results", .array (r.results.map fun d =>
      .object [
        ("index", .number (.ofNat d.index)),
        ("valid", .bool d.valid),
        ("errors", d.errors.encode)])),
    ("total", .number (.ofNat r.total)),
    ("stopped_early", .bool r.stoppedEarly)]

end BatchReport

namespace Batch

/-- The results from an index on, after so many failures. -/
def results (schema : Schema) (limits : Limits) (index failures : Nat) :
    List Json → Except Fault (List DocumentResult)
  | [] => .ok []
  | document :: rest => do
    let errors ← schema.validate document
    let failures := if errors.isEmpty then failures else failures + 1
    if limits.shouldStop failures then return [⟨index, errors⟩]
    else return ⟨index, errors⟩ :: (← results schema limits (index + 1) failures rest)

/-- Checks documents in order until the limit is reached. -/
def validate (schema : Schema) (documents : List Json) (limits : Limits) :
    Except Fault BatchReport := do
  let checked ← results schema limits 0 0 documents
  return ⟨checked, documents.length, checked.length < documents.length⟩

end Batch

end Conform
