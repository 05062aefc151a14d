import Conform.Definition
import Conform.Output.Console

/-!
What a schema declares at its top, and what definitions can name.
-/

namespace Conform

structure PropertyOutline where
  /-- The key of a hash, a position in brackets, or a star in brackets for every element. -/
  name : String
  kind : String
  required : Bool
  allowsNil : Bool
deriving DecidableEq, Repr

namespace PropertyOutline

def ofProperty (name : String) (required : Bool) (p : Property) : PropertyOutline :=
  ⟨name, p.kind, required, p.allowsNil⟩

def toJson (p : PropertyOutline) : Json :=
  .object [
    ("name", .string p.name),
    ("kind", .string p.kind),
    ("required", .bool p.required),
    ("allow_nil", .bool p.allowsNil)]

def yesNo (b : Bool) : String := if b then "yes" else "no"

def cells (p : PropertyOutline) : List String :=
  [p.name, p.kind, yesNo p.required, yesNo p.allowsNil]

end PropertyOutline

/-- The positions of a tuple, the required ones first. -/
def tupleOutline (required optional : List Property) : List PropertyOutline :=
  (required.map (true, ·) ++ optional.map (false, ·)).mapIdx fun i (isRequired, p) =>
    .ofProperty ("[" ++ toString i ++ "]") isRequired p

def Schema.outline : Schema → List PropertyOutline
  | .hash h => h.properties.map fun (name, p) => .ofProperty name p.isRequired p
  | .array a =>
    match a.mode with
    | .unset => []
    | .single p => [.ofProperty "[*]" false p]
    | .tuple required optional => tupleOutline required optional

def Schema.outlineJson (path : String) (s : Schema) : Json :=
  .object [
    ("path", .string path),
    ("kind", .string s.toProperty.kind),
    ("properties", .array (s.outline.map PropertyOutline.toJson))]

/-- The kinds, each with the other names it goes by. -/
def Registry.listing (r : Registry) : List (String × List String) :=
  r.kindNames.map fun kind =>
    (kind, (r.aliasList.filter fun entry => entry.2 == kind).map (·.1))

def Registry.listingJson (r : Registry) : Json :=
  .object [
    ("kinds", .array (r.listing.map fun (kind, aliases) =>
      .object [("name", .string kind), ("aliases", .array (aliases.map .string))])),
    ("validators", .array (r.validatorNames.map .string))]

end Conform
