/-!
Association lists: text keys in a fixed order, each meant to occur once.
-/

namespace Conform.Assoc
variable {α β : Type}

/-- The first value stored under a key. -/
def lookup (key : String) (entries : List (String × α)) : Option α := entries.lookup key

def contains (key : String) (entries : List (String × α)) : Bool := (lookup key entries).isSome

/-- Stores a value under a key, which keeps its place if it is there and goes last if not. -/
def store (key : String) (value : α) : List (String × α) → List (String × α)
  | [] => [(key, value)]
  | (k, v) :: rest => if k = key then (k, value) :: rest else (k, v) :: store key value rest

/-- The list without the first entry of a key. -/
def erase (key : String) (entries : List (String × α)) : List (String × α) :=
  entries.eraseP fun entry => entry.1 == key

def keys (entries : List (String × α)) : List String := entries.map (·.1)

/-- The entries in increasing order of their keys. -/
def sorted (entries : List (String × α)) : List (String × α) :=
  entries.mergeSort fun a b => decide (a.1 ≤ b.1)

end Conform.Assoc
