import Conform.Builder.Tuple

/-!
Steps on an array schema under construction.
-/

namespace Conform
variable {m : Type → Type} [Monad m]

namespace ArrayBuilder

abbrev Step (m : Type → Type) := AttemptT m (ArraySchema Property) Unit

/-- One element property can be set, once, where no tuple is defined. -/
def ensureSingleAvailable : ArrayMode Property → Except SchemaError Unit
  | .unset => .ok ()
  | .single _ => .error (.invalidSchema .singleRepeated)
  | .tuple .. => .error (.invalidSchema .singleWithTuple)

def ensureTupleAvailable : ArrayMode Property → Except SchemaError Unit
  | .single _ => .error (.invalidSchema .singleWithTuple)
  | _ => .ok ()

def checkMode (ensure : ArrayMode Property → Except SchemaError Unit) : Step m := do
  AttemptT.ofExcept (ensure (← get).mode)

def setMode (mode : ArrayMode Property) : Step m := modify fun a => { a with mode := mode }

/-- Describes all elements by a finished property. -/
def set (property : Property) : Step m := do
  checkMode ensureSingleAvailable
  setMode (.single property)

def addProperty (registry : Registry) (kind : String) (options : Options) : Step m := do
  checkMode ensureSingleAvailable
  setMode (.single (← AttemptT.ofExcept (registry.buildProperty kind options)))

def nestedHash (options : Options) (block : HashBuilder.Step m) : Step m := do
  checkMode ensureSingleAvailable
  setMode (.single (.hash (← AttemptT.ofBlock (HashSchema.defineWith options block))))

def array (options : Options) (block : Step m) : Step m := do
  checkMode ensureSingleAvailable
  setMode (.single (.array (← AttemptT.ofBlock (ArraySchema.defineWith options block))))

/-- The properties of a block, of which there has to be one. -/
def collectTuple (block : TupleBuilder.Step m) :
    AttemptT m (ArraySchema Property) (List Property) := do
  checkMode ensureTupleAvailable
  let properties ← AttemptT.ofBlock do
    let (result, properties) ← block.outcome []
    return result.map fun _ => properties
  if properties.isEmpty then throw (.invalidArgument .emptyTuple)
  return properties

/-- The mode with its required positions filled. -/
def fillRequired (items : List Property) :
    ArrayMode Property → Except SchemaError (ArrayMode Property)
  | .tuple [] optional => .ok (.tuple items optional)
  | .tuple .. => .error (.invalidSchema .itemsRepeated)
  | _ => .ok (.tuple items [])

/-- The mode with its optional positions filled. -/
def fillOptional (items : List Property) :
    ArrayMode Property → Except SchemaError (ArrayMode Property)
  | .tuple required [] => .ok (.tuple required items)
  | .tuple .. => .error (.invalidSchema .optionalItemsRepeated)
  | _ => .ok (.tuple [] items)

def fill (filled : ArrayMode Property → Except SchemaError (ArrayMode Property)) : Step m := do
  setMode (← AttemptT.ofExcept (filled (← get).mode))

/-- Defines the required positions. -/
def items (block : TupleBuilder.Step m) : Step m := do
  fill (fillRequired (← collectTuple block))

/-- Defines the optional positions. -/
def optionalItems (block : TupleBuilder.Step m) : Step m := do
  fill (fillOptional (← collectTuple block))

end ArrayBuilder

end Conform
