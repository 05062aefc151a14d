/-!
Paths of files as texts whose parts are separated by slashes.
-/

namespace Conform.Path

/-- The parts of a path other than empty ones and single dots, which lead nowhere. -/
def parts (path : String) : List String :=
  (path.toList.splitOn '/').map String.ofList |>.filter fun part => !part.isEmpty && part != "."

/-- The name of the file itself. -/
def fileName? (path : String) : Option String :=
  match (parts path).getLast? with
  | some ".." => none
  | name => name

/-- What follows the last dot of the file's name. A dot at the start is part of the name. -/
def extension? (path : String) : Option String := do
  let reversed := (← fileName? path).toList.reverse
  match reversed.dropWhile (· != '.') with
  | [] | [_] => none
  | _ :: _ => return String.ofList (reversed.takeWhile (· != '.')).reverse

/-- A path inside a directory. -/
def join (directory name : String) : String := directory ++ "/" ++ name

end Conform.Path
