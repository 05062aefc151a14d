/-!
Why something is not the JSON that is asked for.
-/

namespace Conform

inductive JsonFault where
  /-- The text is not JSON. -/
  | malformed
  /-- A mapping has a key that no JSON object can have. -/
  | key
  /-- A value is not what its place in a record calls for. -/
  | unexpected (expected : String)
  | duplicateField (name : String)
deriving DecidableEq, Repr

def JsonFault.message : JsonFault → String
  | .malformed => "not a JSON text"
  | .key => "key must be a string"
  | .unexpected expected => "expected " ++ expected
  | .duplicateField name => "duplicate field " ++ name

end Conform
