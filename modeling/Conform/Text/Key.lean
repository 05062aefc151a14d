import Conform.Text.Blank
import Conform.Text.Case

/-!
Names in any of the usual styles, brought to snake case.
-/

namespace Conform.Text

/-- A name part way through: what is written, last character first, and whether a capital that
follows starts a new word. -/
structure KeyWriter where
  out : List Char
  afterLower : Bool

namespace KeyWriter

/-- An underscore, unless the name starts here or has one already. -/
def separate (w : KeyWriter) : List Char :=
  match w.out with
  | [] => []
  | '_' :: _ => w.out
  | out => '_' :: out

def step (w : KeyWriter) (c : Char) : KeyWriter :=
  if c = '-' ∨ c = ' ' ∨ c = '_' then ⟨w.separate, false⟩
  else if isUppercase c then
    let out := if w.afterLower then w.separate else w.out
    ⟨(lowercase c).reverse ++ out, false⟩
  else ⟨c :: w.out, isLowercase c || c.isDigit⟩

end KeyWriter

/-- The snake case form of a name: `allowNil`, `AllowNil`, `allow-nil` and `:allow_nil` all name
`allow_nil`. -/
def normalizeKey (key : String) : String :=
  let cs := (trim key.toList).dropWhile (· = ':')
  String.ofList (cs.foldl KeyWriter.step ⟨[], false⟩).out.reverse

end Conform.Text
