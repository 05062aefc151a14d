/-!
Which events a run logs and how it lays them out.
-/

namespace Conform

/-- The layout of a line of the log. -/
inductive LogFormat where
  | compact
  | full
  | json
deriving DecidableEq, Repr

/-- The layout with a name in any letter case. -/
def LogFormat.ofName? (name : String) : Option LogFormat :=
  match name.toLower with
  | "compact" => some compact
  | "full" => some full
  | "json" => some json
  | _ => none

/-- The part of a settings file that concerns the log. -/
structure LogPreference where
  level : Option String
  format : Option String
deriving DecidableEq, Repr

structure Logging where
  /-- What is logged, as a filter: a level, or levels for parts of the program. -/
  level : String
  format : LogFormat
  threadIds : Bool
  sourceLocation : Bool
  /-- Events at the end of spans, which tell how long they took. -/
  spanEvents : Bool
deriving DecidableEq, Repr

namespace Logging

/-- Each step of verbosity adds a level. From the second on, places in the source are logged, from
the third on everything. -/
def ofVerbosity (verbosity : Nat) : Logging where
  level :=
    match verbosity with
    | 0 => "warn"
    | 1 => "info"
    | 2 => "debug"
    | _ => "trace"
  format := if 3 ≤ verbosity then .full else .compact
  threadIds := 3 ≤ verbosity
  sourceLocation := 2 ≤ verbosity
  spanEvents := 3 ≤ verbosity

/-- What a settings file prefers. Its level counts only where no verbosity is asked for; a layout
that is not known counts nowhere. -/
def prefer (preference : LogPreference) (verbosity : Nat) (l : Logging) : Logging :=
  { l with
    level := if verbosity = 0 then preference.level.getD l.level else l.level
    format := (preference.format.bind LogFormat.ofName?).getD l.format }

end Logging

end Conform
