import Conform.Builder.Define

/-!
Steps on a hash schema under construction.
-/

namespace Conform
variable {m : Type → Type} [Monad m]

namespace HashBuilder

abbrev Step (m : Type → Type) := AttemptT m (HashSchema Property) Unit

/-- A name is available when it is not blank and not taken. -/
def ensureAvailable (name : String) (h : HashSchema Property) : Except SchemaError Unit :=
  if Text.allBlank name then .error (.invalidArgument .blankProperty)
  else if Assoc.contains name h.properties then .error (.propertyAlreadyDefined name)
  else .ok ()

def checkName (name : String) : Step m := do
  AttemptT.ofExcept (ensureAvailable name (← get))

def push (name : String) (property : Property) : Step m :=
  modify fun h => { h with properties := h.properties ++ [(name, property)] }

/-- Adds a finished property. -/
def insert (name : String) (property : Property) : Step m := do
  checkName name
  push name property

/-- Adds a property of a registered kind. -/
def addProperty (registry : Registry) (kind name : String) (options : Options) : Step m := do
  checkName name
  push name (← AttemptT.ofExcept (registry.buildProperty kind options))

def nestedHash (name : String) (options : Options) (block : Step m) : Step m := do
  checkName name
  push name (.hash (← AttemptT.ofBlock (HashSchema.defineWith options block)))

def array (name : String) (options : Options)
    (block : AttemptT m (ArraySchema Property) Unit) : Step m := do
  checkName name
  push name (.array (← AttemptT.ofBlock (ArraySchema.defineWith options block)))

/-- Lets undeclared keys pass from now on. -/
def relaxed : Step m := modify fun h => { h with strict := false }

/-- Refuses undeclared keys from now on. -/
def strict : Step m := modify fun h => { h with strict := true }

end HashBuilder

end Conform
