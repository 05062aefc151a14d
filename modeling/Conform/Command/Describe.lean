import Conform.Command.Outcome
import Conform.Report.Outline

/-!
What a schema declares and what definitions can name, told without any document.
-/

namespace Conform

/-- The outline of a schema for readers. -/
def outlineText (path : String) (schema : Schema) (c : Console) : String :=
  let properties := schema.outline
  c.success ("✓ " ++ path ++ " is a valid " ++ schema.toProperty.kind ++ " schema") ++
    if properties.isEmpty then ""
    else
      c.heading "Properties" ++
        c.table ["Name", "Kind", "Required", "Allow nil"] (properties.map PropertyOutline.cells)

/-- Tells what a schema declares. -/
def checkSchema (files : Files) (c : Console) (path : String) : Outcome :=
  match (do ensureExists files path; openSchema files path : Except Failure Schema) with
  | .error f => .failed "" f
  | .ok schema =>
    .done (if c.isHuman then outlineText path schema c else c.data (schema.outlineJson path))

/-- Tells which kinds and validators definitions can name. -/
def listKinds (registry : Registry) (c : Console) : Outcome :=
  .done (if c.isHuman then
    c.heading "Kinds" ++
      c.table ["Kind", "Aliases"]
        (registry.listing.map fun (kind, aliases) => [kind, String.intercalate ", " aliases]) ++
      c.heading "Validators" ++
      String.join (registry.validatorNames.map fun name => Console.line ("  " ++ name))
  else c.data registry.listingJson)

end Conform
