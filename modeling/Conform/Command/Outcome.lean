import Conform.Failure
import Conform.Source.Read

/-!
How commands end, and how they open files.
-/

namespace Conform

/-- What a run writes, and why it fails if it does. -/
structure Outcome where
  text : String
  failure? : Option Failure
deriving DecidableEq, Repr

namespace Outcome

def failed (text : String) (f : Failure) : Outcome := ⟨text, some f⟩

def done (text : String) : Outcome := ⟨text, none⟩

end Outcome

/-- Nothing happens to a file that is not there. -/
def ensureExists (files : Files) (path : String) : Except Failure Unit :=
  if files.exist path then .ok () else .error (.fileNotFound path)

def openSchema (files : Files) (path : String) : Except Failure Schema :=
  (Source.loadSchema files path).mapError .source

end Conform
