import Conform.Path

/-!
The files that a run can see, as a value.
-/

namespace Conform

/-- What a path leads to. -/
inductive Entry where
  | text (content : String)
  | directory
  /-- A file that is no text or that may not be read. -/
  | unreadable
deriving DecidableEq, Repr

inductive ReadFault where
  | notFound
  | isDirectory
  | unreadable
deriving DecidableEq, Repr

def ReadFault.message : ReadFault → String
  | .notFound => "no such file or directory"
  | .isDirectory => "is a directory"
  | .unreadable => "not a readable text"

/-- The files of a system, by the paths that lead to them. -/
structure Files where
  entry? : String → Option Entry

namespace Files

def exist (path : String) (files : Files) : Bool := (files.entry? path).isSome

def read (path : String) (files : Files) : Except ReadFault String :=
  match files.entry? path with
  | some (.text content) => .ok content
  | some .directory => .error .isDirectory
  | some .unreadable => .error .unreadable
  | none => .error .notFound

/-- Where parts of a path lead from the top; `..` leads back. -/
def walk (parts : List String) : List String :=
  (parts.foldl (fun up part => if part = ".." then up.drop 1 else part :: up) []).reverse

/-- A path that ends like one of a directory. -/
def asksForDirectory (path : String) : Bool :=
  match path.toList.reverse with
  | '/' :: _ => true
  | '.' :: '/' :: _ => true
  | ['.'] => true
  | _ => false

/-- A tree of text files and empty directories, each named by a path from the top; the name of an
empty directory ends in a slash. Other directories are there because something is in them. -/
def ofTree (tree : List (String × String)) : Files where
  entry? path :=
    let target := walk (Path.parts path)
    let leadsTo (name : String) : Bool := walk (Path.parts name) == target
    if path.isEmpty || path.startsWith "/" then none
    else
      match tree.find? fun file => leadsTo file.1 && !asksForDirectory file.1 with
      | some (_, content) => if asksForDirectory path then none else some (.text content)
      | none =>
        if target.isEmpty || tree.any fun file => target.isPrefixOf (walk (Path.parts file.1)) then
          some .directory
        else none

end Files

end Conform
