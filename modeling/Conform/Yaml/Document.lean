import Conform.Assoc
import Conform.Yaml.Grammar
import Conform.Yaml.Token.Scan

/-!
Documents with their aliases tied to nodes.
-/

namespace Conform.Yaml

/-- The anchors so far: which number each name stands for now. -/
abbrev Anchors := List (String × Nat)

/-- Gives an anchor the number of names known so far. A name that is known keeps its place among
them, so a later anchor may get the same number. -/
def numberAnchor : Option String → StateT Anchors (Except Fault) (Option Nat)
  | none => pure none
  | some name => do
    let anchors ← get
    set (Assoc.store name anchors.length anchors)
    return some anchors.length

def numberProperties (p : Properties String) : StateT Anchors (Except Fault) (Properties Nat) := do
  return ⟨p.tag, ← numberAnchor p.anchor⟩

namespace Node

mutual

/-- Replaces names by numbers, in the order in which nodes begin; an alias stands for an anchor
that began before it. -/
def numbered : Node String → StateT Anchors (Except Fault) (Node Nat)
  | .alias name => do
    match Assoc.lookup name (← get) with
    | some n => return .alias n
    | none => throw (.unknownAlias name)
  | .scalar p text style => do return .scalar (← numberProperties p) text style
  | .sequence p items => do
    let p ← numberProperties p
    return .sequence p (← numberedItems items)
  | .mapping p entries => do
    let p ← numberProperties p
    return .mapping p (← numberedEntries entries)

def numberedItems : List (Node String) → StateT Anchors (Except Fault) (List (Node Nat))
  | [] => pure []
  | n :: rest => do
    let n ← numbered n
    return n :: (← numberedItems rest)

def numberedEntries :
    List (Node String × Node String) → StateT Anchors (Except Fault) (List (Node Nat × Node Nat))
  | [] => pure []
  | (k, v) :: rest => do
    let k ← numbered k
    let v ← numbered v
    return (k, v) :: (← numberedEntries rest)

end

end Node

/-- A document: its root, and the anchored nodes, the last to begin first. -/
structure Document where
  root : Node Nat
  anchored : List (Nat × Node Nat)

namespace Document

def ofRoot (n : Node String) : Except Fault Document := do
  let (root, _) ← n.numbered.run []
  return ⟨root, root.anchored.reverse⟩

/-- The node that an alias stands for; any other node stands for itself. Of two anchors with one
number the later one counts. -/
def resolve (d : Document) : Node Nat → Node Nat
  | .alias n => ((d.anchored.find? (·.1 == n)).map (·.2)).getD .absent
  | n => n

/-- The documents of a text up to the first that cannot be read. -/
def readAll (text : String) : List (Except Fault Document) :=
  let ts := Token.scan text
  (documentsFrom true (ts.length + 1) ts).map fun root => root.bind ofRoot

/-- The only document of a text. -/
def read (text : String) : Except Fault Document :=
  match readAll text with
  | [d] => d
  | .error f :: _ => .error f
  | _ => .error .severalDocuments

end Document

end Conform.Yaml
