import Conform.Batch
import Conform.Json.Printer
import Conform.Output.Console
import Conform.Text.Lines

/-!
What a run over files found, for readers and as data.
-/

namespace Conform

structure FileReport where
  path : String
  batch : BatchReport

structure Summary where
  schema : String
  files : List FileReport

namespace Summary

/-- Every document of every file that was opened is valid. -/
def isValid (s : Summary) : Bool := s.files.all (·.batch.isValid)

def checked (s : Summary) : Nat := s.files.foldr (fun r n => r.batch.checked + n) 0

def failures (s : Summary) : Nat := s.files.foldr (fun r n => r.batch.failureCount + n) 0

end Summary

def FileReport.toJson (r : FileReport) : Json :=
  match r.batch.toJson with
  | .object fields => .object (("path", .string r.path) :: fields)
  | v => v

def Summary.toJson (s : Summary) : Json :=
  .object [
    ("schema", .string s.schema),
    ("valid", .bool s.isValid),
    ("checked", .number (.ofNat s.checked)),
    ("failures", .number (.ofNat s.failures)),
    ("files", .array (s.files.map FileReport.toJson))]

/-- What a line of a summary is about. -/
inductive Tone where
  | valid
  | invalid
  | stopped
  | detail
  | totals
deriving DecidableEq, Repr

/-- The errors of a document: a line for each violation, or the tree of errors over several. -/
def DocumentResult.lines (tree : Bool) (r : DocumentResult) : List String :=
  if tree then Text.lines r.errors.encode.pretty else r.errors.violations.map Violation.render

namespace FileReport

def validLine (r : FileReport) : String :=
  "✓ " ++ r.path ++ ": " ++ toString r.batch.checked ++ " document(s) valid"

def invalidLine (r : FileReport) : String :=
  "✗ " ++ r.path ++ ": " ++ toString r.batch.failureCount ++ " of " ++
    toString r.batch.checked ++ " document(s) invalid"

def stoppedLine (r : FileReport) : String :=
  "  stopped after " ++ toString r.batch.checked ++ " of " ++ toString r.batch.total ++
    " document(s)"

/-- The lines about the invalid documents of a file. -/
def detailLines (tree : Bool) (r : FileReport) : List String :=
  r.batch.failures.flatMap fun d =>
    ("  document " ++ toString d.index) :: (d.lines tree).map ("    " ++ ·)

def lines (tree : Bool) (r : FileReport) : List (Tone × String) :=
  if r.batch.isValid then [(.valid, r.validLine)]
  else
    (.invalid, r.invalidLine) :: (r.detailLines tree).map (Tone.detail, ·) ++
      if r.batch.stoppedEarly then [(.stopped, r.stoppedLine)] else []

end FileReport

namespace Summary

def totalsLine (s : Summary) : String :=
  "Checked " ++ toString s.checked ++ " document(s) in " ++ toString s.files.length ++
    " file(s): " ++ toString s.failures ++ " invalid"

def lines (tree : Bool) (s : Summary) : List (Tone × String) :=
  s.files.flatMap (·.lines tree) ++ [(.totals, s.totalsLine)]

/-- A summary as a text of its own, without colors. -/
def render (tree : Bool) (s : Summary) : OutputFormat → String
  | .human => String.join ((s.lines tree).map fun l => Console.line l.2)
  | format => format.render s.toJson

end Summary

namespace Console

def summaryLine (tone : Tone) (text : String) (c : Console) : String :=
  match tone with
  | .valid => c.success text
  | .invalid => c.error text
  | .stopped => c.warning text
  | .detail => line text
  | .totals => c.chatter (line text)

/-- A summary as a run writes it. Quiet ones still tell what is invalid. -/
def summary (tree : Bool) (s : Summary) (c : Console) : String :=
  if c.isHuman then String.join ((s.lines tree).map fun (tone, text) => c.summaryLine tone text)
  else c.document (s.render tree c.format)

end Console

end Conform
