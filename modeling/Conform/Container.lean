import Conform.Options
import Conform.Property

/-!
Containers without properties, made from their options.
-/

namespace Conform

/-- Options in hand, taken one by one. -/
def Options.consume {α : Type} (taking : Attempt Options α) (kind : String) (o : Options) :
    Except SchemaError α :=
  match taking.outcome o with
  | (.ok a, rest) => (rest.ensureConsumed kind).map fun _ => a
  | (.error e, _) => .error e

def HashSchema.ofOptions {P : Type} (options : Options) : Except SchemaError (HashSchema P) :=
  options.consume (do
    let required ← Options.takeBool "required" true
    let allowNil ← Options.takeBool "allow_nil" false
    let strict ← Options.takeBool "strict_mode" true
    return ⟨[], strict, required, allowNil⟩) hashKind

def ArraySchema.ofOptions {P : Type} (options : Options) : Except SchemaError (ArraySchema P) :=
  options.consume (do
    let required ← Options.takeBool "required" true
    let allowNil ← Options.takeBool "allow_nil" false
    let unique ← Options.takeBool "validates_uniqueness" false
    let minSize ← Options.takeSize "min_size"
    let maxSize ← Options.takeSize "max_size"
    return ⟨.unset, unique, minSize, maxSize, required, allowNil⟩) arrayKind

end Conform
