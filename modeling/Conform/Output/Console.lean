import Conform.Output.Color
import Conform.Output.Format
import Conform.Output.Table

/-!
What the program writes: prose for readers, or data for other programs.
-/

namespace Conform

structure Console where
  format : OutputFormat
  color : Bool
  /-- Only warnings, errors and what is asked for are written. -/
  quiet : Bool
deriving DecidableEq, Repr

namespace Console

def isHuman (c : Console) : Bool := c.format = .human

def line (s : String) : String := s ++ "\n"

/-- A painted line, or one that says in words what the color would. -/
def toned (tint : Tint) (label message : String) (c : Console) : String :=
  line (if c.color then tint.paint message else label ++ message)

/-- What only readers get, unless they want quiet. -/
def chatter (text : String) (c : Console) : String :=
  if c.quiet || !c.isHuman then "" else text

/-- What readers always get. -/
def notice (text : String) (c : Console) : String := if c.isHuman then text else ""

def info (message : String) (c : Console) : String :=
  c.chatter (line ((if c.color then Tint.blue.paint "ℹ" else "INFO:") ++ " " ++ message))

def success (message : String) (c : Console) : String :=
  c.chatter (c.toned .green "" message)

def warning (message : String) (c : Console) : String :=
  c.notice (c.toned .yellow "WARNING: " message)

def error (message : String) (c : Console) : String :=
  c.notice (c.toned .red "ERROR: " message)

/-- A heading under an empty line. -/
def heading (title : String) (c : Console) : String :=
  c.chatter ("\n" ++ line (if c.color then Tint.brightBlue.paint ("═══ " ++ title ++ " ═══")
    else "=== " ++ title ++ " ==="))

/-- Text that is the answer itself, with a line end after it. Data that ends with one gets no
other. -/
def document (text : String) (c : Console) : String :=
  if !c.isHuman && text.endsWith "\n" then text else line text

def data (v : Json) (c : Console) : String := c.document (c.format.render v)

def table (headers : List String) (rows : List (List String)) (c : Console) : String :=
  let widths := Table.widths headers rows
  let header := Table.headerLine headers widths
  c.notice (line (if c.color then Tint.bold.paint header else header) ++
    line (Table.ruler widths) ++
    String.join (rows.map fun row => line (Table.rowLine widths row)))

end Console

end Conform
