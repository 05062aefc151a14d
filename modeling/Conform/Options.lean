import Conform.Attempt
import Conform.Power
import Conform.Text.Key

/-!
Option sets, keyed by normalized name in the order given.
-/

namespace Conform
open Text (normalizeKey)

structure Options where
  entries : List (String × Json)

namespace Options

def empty : Options := ⟨[]⟩

def get? (key : String) (o : Options) : Option Json := Assoc.lookup (normalizeKey key) o.entries

def contains (key : String) (o : Options) : Bool := (o.get? key).isSome

/-- Adds an option whose name is new. -/
def insert (key : String) (value : Json) (o : Options) : Except SchemaError Options :=
  let name := normalizeKey key
  if name = "" then .error (.invalidArgument .blankOption)
  else if o.contains name then .error (.invalidArgument (.repeatedOption name))
  else .ok ⟨o.entries ++ [(name, value)]⟩

def insertAll (fields : List (String × Json)) (o : Options) : Except SchemaError Options :=
  fields.foldlM (fun o (key, value) => o.insert key value) o

/-- An object of options, or none at all for null. -/
def ofJson : Json → Except SchemaError Options
  | .object fields => empty.insertAll fields
  | .null => .ok empty
  | v => .error (.typeMismatch .options v.kindName)

/-- Adds an option or replaces its value. -/
def set (key : String) (value : Json) (o : Options) : Options :=
  ⟨Assoc.store (normalizeKey key) value o.entries⟩

/-- Removes an option and answers its value. -/
def take (key : String) : Attempt Options (Option Json) := do
  let o ← get
  modify fun o => ⟨Assoc.erase (normalizeKey key) o.entries⟩
  return o.get? key

def takeBool (key : String) (default : Bool) : Attempt Options Bool := do
  match ← take key with
  | none => return default
  | some (.bool b) => return b
  | some v => throw (.typeMismatch (.boolean (normalizeKey key)) v.kindName)

/-- Sizes are below this. -/
def sizeLimit : Nat := pow2 64

/-- The size a number spells, if it is a natural number without sign. -/
def size? (n : Number) : Option Nat :=
  if n.isIntegral ∧ ¬ n.negative ∧ n.whole < sizeLimit then some n.whole else none

/-- Null stands for no size. -/
def takeSize (key : String) : Attempt Options (Option Nat) := do
  match ← take key with
  | none => return none
  | some .null => return none
  | some (.number n) =>
    match size? n with
    | some k => return some k
    | none => throw (.invalidArgument (.size (normalizeKey key) n))
  | some v => throw (.typeMismatch (.integer (normalizeKey key)) v.kindName)

/-- Options that are left over are unknown to the kind. -/
def ensureConsumed (kind : String) (o : Options) : Except SchemaError Unit :=
  match o.entries with
  | [] => .ok ()
  | (key, _) :: _ => .error (.unknownOption key kind)

end Options

end Conform
