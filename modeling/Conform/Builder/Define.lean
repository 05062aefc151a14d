import Conform.Registry

/-!
Schemas built step by step. A block is a sequence of steps on a container under construction;
nested blocks build the containers inside.
-/

namespace Conform
variable {m : Type → Type} [Monad m]

/-- Builds a hash schema from options and a block. -/
def HashSchema.defineWith (options : Options) (block : AttemptT m (HashSchema Property) Unit) :
    m (Except SchemaError (HashSchema Property)) :=
  match HashSchema.ofOptions options with
  | .error e => pure (.error e)
  | .ok start => do
    let (result, schema) ← block.outcome start
    return result.map fun _ => schema

/-- Builds an array schema from options and a block. -/
def ArraySchema.defineWith (options : Options) (block : AttemptT m (ArraySchema Property) Unit) :
    m (Except SchemaError (ArraySchema Property)) :=
  match ArraySchema.ofOptions options with
  | .error e => pure (.error e)
  | .ok start => do
    let (result, schema) ← block.outcome start
    return result.map fun _ => schema

/-- Runs a computation of the underlying effects that has its own verdict. -/
def AttemptT.ofBlock {σ α : Type} (x : m (Except SchemaError α)) : AttemptT m σ α :=
  ExceptT.mk (fun s => do return (← x, s))

end Conform
