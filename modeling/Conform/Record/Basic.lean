import Conform.Assoc

/-!
Records with named fields, whatever format they are written in.
-/

namespace Conform

/-- How values of a type `α` are read as parts of records; faults have type `ε`. -/
structure FieldReader (α ε : Type) where
  /-- The fields of a record that are among some names, each of them at most once. -/
  fields : List String → α → Except ε (List (String × α))
  flag : α → Except ε Bool
  /-- A count that fits 64 bits. -/
  size : α → Except ε Nat
  text : α → Except ε String
  optionalText : α → Except ε (Option String)

namespace FieldReader
variable {α ε β : Type}

/-- A field that may be left out. -/
def field (fields : List (String × α)) (name : String) (read : α → Except ε β) (absent : β) :
    Except ε β :=
  match Assoc.lookup name fields with
  | some v => read v
  | none => .ok absent

/-- The first of the names that more than one entry has. -/
def repeated? (names : List String) (entries : List (String × α)) : Option String :=
  names.find? fun name => 1 < entries.countP fun entry => entry.1 == name

/-- The entries with one of the names, which must not repeat; other entries mean nothing. -/
def known (names : List String) (entries : List (String × α)) (fault : String → ε) :
    Except ε (List (String × α)) :=
  match repeated? names entries with
  | some name => .error (fault name)
  | none => .ok (entries.filter fun entry => names.contains entry.1)

end FieldReader

end Conform
