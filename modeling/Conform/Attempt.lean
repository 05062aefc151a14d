import Conform.SchemaError

/-!
Steps that may fail on a state. A step that fails still leaves a state behind.
-/

namespace Conform

/-- A step on states `σ` with further effects `m`; what it changed before failing stays changed. -/
abbrev AttemptT (m : Type → Type) (σ α : Type) := ExceptT SchemaError (StateT σ m) α

abbrev Attempt (σ α : Type) := AttemptT Id σ α

namespace AttemptT
variable {m : Type → Type} [Monad m] {σ α : Type}

/-- The result of a step from a state, and the state after it. -/
def outcome (x : AttemptT m σ α) (s : σ) : m (Except SchemaError α × σ) := x.run.run s

/-- A result computed without the state. -/
def ofExcept (r : Except SchemaError α) : AttemptT m σ α := ExceptT.mk (pure r)

end AttemptT

end Conform
