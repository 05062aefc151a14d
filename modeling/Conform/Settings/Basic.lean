import Conform.Batch
import Conform.Logging.Basic
import Conform.Output.Format

/-!
Settings of the program, as files hold them.
-/

namespace Conform

structure OutputSettings where
  /-- The name of a format, which may be unknown. -/
  format : String
  color : Bool
  /-- Whether a run over many files shows how far it is. -/
  progress : Bool
deriving DecidableEq, Repr

structure Settings where
  output : OutputSettings
  logging : LogPreference
  limits : Limits
deriving DecidableEq, Repr

def OutputSettings.default : OutputSettings := ⟨"human", true, true⟩

def LogPreference.default : LogPreference := ⟨none, none⟩

def Limits.unlimited : Limits := ⟨false, 0⟩

namespace Settings

/-- What holds where no file says otherwise. -/
def default : Settings := ⟨.default, .default, .unlimited⟩

private def optionalText : Option String → Json
  | some s => .string s
  | none => .null

def toJson (s : Settings) : Json :=
  .object [
    ("output", .object [
      ("format", .string s.output.format),
      ("color", .bool s.output.color),
      ("progress", .bool s.output.progress)]),
    ("logging", .object [
      ("level", optionalText s.logging.level),
      ("format", optionalText s.logging.format)]),
    ("validation", .object [
      ("fail_fast", .bool s.limits.failFast),
      ("max_failures", .number (.ofNat s.limits.maxFailures))])]

/-- The limits of a run. A wish to stop at once adds to the settings, a number of failures
replaces theirs. -/
def limitsFor (failFast : Bool) (maxFailures : Option Nat) (s : Settings) : Limits :=
  ⟨failFast || s.limits.failFast, maxFailures.getD s.limits.maxFailures⟩

end Settings

end Conform
