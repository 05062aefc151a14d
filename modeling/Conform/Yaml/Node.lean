import Conform.Yaml.Token.Basic

/-!
YAML documents as trees. Aliases are leaves: they say by a name of type `ν` which node they stand
for.
-/

namespace Conform.Yaml

/-- What a node may carry besides its content. -/
structure Properties (ν : Type) where
  tag : Option String
  anchor : Option ν

inductive Node (ν : Type) where
  | alias (target : ν)
  | scalar (properties : Properties ν) (text : String) (style : Style)
  | sequence (properties : Properties ν) (items : List (Node ν))
  | mapping (properties : Properties ν) (entries : List (Node ν × Node ν))

namespace Node
variable {ν : Type}

/-- The node that stands where nothing is written. -/
def absent : Node ν := .scalar ⟨none, none⟩ "" .plain

mutual

/-- How many beginnings and ends of nodes a tree has; scalars and aliases count once. -/
def extent : Node ν → Nat
  | .alias _ => 1
  | .scalar .. => 1
  | .sequence _ items => itemsExtent items + 2
  | .mapping _ entries => entriesExtent entries + 2

def itemsExtent : List (Node ν) → Nat
  | [] => 0
  | n :: rest => extent n + itemsExtent rest

def entriesExtent : List (Node ν × Node ν) → Nat
  | [] => 0
  | (k, v) :: rest => extent k + extent v + entriesExtent rest

end

/-- A node with its anchor, if it has one. -/
def own (p : Properties ν) (n : Node ν) : List (ν × Node ν) :=
  (p.anchor.map fun a => (a, n)).toList

mutual

/-- The nodes that have anchors, in the order in which they begin. -/
def anchored : Node ν → List (ν × Node ν)
  | .alias _ => []
  | .scalar p text style => own p (.scalar p text style)
  | .sequence p items => own p (.sequence p items) ++ anchoredItems items
  | .mapping p entries => own p (.mapping p entries) ++ anchoredEntries entries

def anchoredItems : List (Node ν) → List (ν × Node ν)
  | [] => []
  | n :: rest => anchored n ++ anchoredItems rest

def anchoredEntries : List (Node ν × Node ν) → List (ν × Node ν)
  | [] => []
  | (k, v) :: rest => anchored k ++ anchored v ++ anchoredEntries rest

end

end Node

end Conform.Yaml
