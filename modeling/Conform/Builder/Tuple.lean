import Conform.Builder.Hash

/-!
Steps on the properties of a tuple under construction.
-/

namespace Conform
variable {m : Type → Type} [Monad m]

namespace TupleBuilder

abbrev Step (m : Type → Type) := AttemptT m (List Property) Unit

def push (property : Property) : Step m := modify fun ps => ps ++ [property]

def addProperty (registry : Registry) (kind : String) (options : Options) : Step m := do
  push (← AttemptT.ofExcept (registry.buildProperty kind options))

def nestedHash (options : Options) (block : HashBuilder.Step m) : Step m := do
  push (.hash (← AttemptT.ofBlock (HashSchema.defineWith options block)))

def array (options : Options) (block : AttemptT m (ArraySchema Property) Unit) : Step m := do
  push (.array (← AttemptT.ofBlock (ArraySchema.defineWith options block)))

end TupleBuilder

end Conform
