import Conform.Json.Printer

/-!
What can be wrong with a schema, as opposed to a document: causes, and the text of each.
-/

namespace Conform

/-- Why a schema's parts do not fit together. -/
inductive Conflict where
  | singleRepeated
  | singleWithTuple
  | itemsRepeated
  | optionalItemsRepeated
deriving DecidableEq, Repr

/-- Why a value given to a constructor is refused. -/
inductive ArgumentFault where
  | blankOption
  | repeatedOption (name : String)
  | size (option : String) (given : Number)
  | missingConfig (validator : String)
  | notNumber (validator found : String)
  | notBoolean (validator found : String)
  | zeroDivisor (validator : String)
  | notArray
  | blankProperty
  | emptyTuple
  /-- A reason of the caller's own. -/
  | other (reason : String)
deriving DecidableEq, Repr

/-- What a value should have been. -/
inductive Expectation where
  | options
  | boolean (option : String)
  | integer (option : String)
  | pattern
deriving DecidableEq, Repr

mutual

/-- A fault in a schema. Documents that do not conform are no faults: they have error maps. -/
inductive SchemaError where
  | propertyAlreadyDefined (name : String)
  | validatorAlreadyDefined (name : String)
  | invalidSchema (conflict : Conflict)
  | invalidArgument (fault : ArgumentFault)
  | typeMismatch (expected : Expectation) (found : String)
  | invalidPattern (pattern detail : String)
  | unknownKind (kind : String)
  | unknownValidator (name : String)
  | unknownOption (option kind : String)
  | invalidDefinition (path : String) (fault : DefinitionFault)
  /-- A validator was given a value that it cannot judge. -/
  | incompatibleValue (validator found : String)
deriving DecidableEq, Repr

/-- What is wrong at a place of a definition. -/
inductive DefinitionFault where
  | typeNotString
  | typeMissing
  | notDefinition
  | notContainer (kind : String)
  | misplaced (key kind : String)
  | propertiesNotObject
  | itemsNotArray (key : String)
  /-- The place is well formed, but nothing can be built from it. -/
  | construction (cause : SchemaError)
deriving DecidableEq, Repr

end

def Conflict.message : Conflict → String
  | .singleRepeated => "single type property has already been defined for this schema"
  | .singleWithTuple => "cannot mix single-type and tuple definitions"
  | .itemsRepeated => "tuple items have already been defined for this schema"
  | .optionalItemsRepeated => "optional tuple items have already been defined for this schema"

def ArgumentFault.message : ArgumentFault → String
  | .blankOption => "option name cannot be blank"
  | .repeatedOption name => "option `" ++ name ++ "` given more than once"
  | .size option given =>
    "`" ++ option ++ "` must be a non-negative integer, got " ++ given.spelling
  | .missingConfig validator => "a value must be provided for `" ++ validator ++ "`"
  | .notNumber validator found => "`" ++ validator ++ "` requires a number, got " ++ found
  | .notBoolean validator found => "`" ++ validator ++ "` requires a boolean, got " ++ found
  | .zeroDivisor validator => "`" ++ validator ++ "` cannot divide by zero"
  | .notArray => "an array must be provided"
  | .blankProperty => "property name cannot be blank"
  | .emptyTuple => "a block of properties must be given to define the tuple items"
  | .other reason => reason

def Expectation.message : Expectation → String
  | .options => "an object of options"
  | .boolean option => "a boolean for `" ++ option ++ "`"
  | .integer option => "an integer for `" ++ option ++ "`"
  | .pattern => "a regular expression pattern"

mutual

def SchemaError.message : SchemaError → String
  | .propertyAlreadyDefined name => "`" ++ name ++ "` has already been defined in this schema"
  | .validatorAlreadyDefined name => "`" ++ name ++ "` has already been defined in this schema"
  | .invalidSchema conflict => "invalid schema: " ++ conflict.message
  | .invalidArgument fault => "invalid argument: " ++ fault.message
  | .typeMismatch expected found =>
    "type mismatch: expected " ++ expected.message ++ ", got " ++ found
  | .invalidPattern pattern detail => "invalid regular expression `" ++ pattern ++ "`: " ++ detail
  | .unknownKind kind => "unknown property kind `" ++ kind ++ "`"
  | .unknownValidator name => "unknown validator `" ++ name ++ "`"
  | .unknownOption option kind => "unknown option `" ++ option ++ "` for " ++ kind
  | .invalidDefinition path fault => "invalid definition at '" ++ path ++ "': " ++ fault.message
  | .incompatibleValue validator found =>
    "validator `" ++ validator ++ "` cannot be applied to " ++ found

def DefinitionFault.message : DefinitionFault → String
  | .typeNotString => "`type` must be a string"
  | .typeMissing => "missing `type`"
  | .notDefinition => "a definition must be a type name or an object"
  | .notContainer kind => "top-level schema must be a hash or an array, got `" ++ kind ++ "`"
  | .misplaced key kind => "`" ++ key ++ "` is not valid for kind `" ++ kind ++ "`"
  | .propertiesNotObject => "`properties` must be an object"
  | .itemsNotArray key => "`" ++ key ++ "` must be an array of definitions"
  | .construction cause => cause.message

end

namespace SchemaError

/-- Arises while a document is judged, not while the schema is built. -/
def isRuntime : SchemaError → Bool
  | incompatibleValue .. => true
  | _ => false

/-- Ties a fault to the place of a definition; one that is tied to a place stays there. -/
def anchored (path : String) : SchemaError → SchemaError
  | invalidDefinition p fault => invalidDefinition p fault
  | e => invalidDefinition path (.construction e)

end SchemaError

end Conform
