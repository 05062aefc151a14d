/-!
Texts in the colors and weights of a terminal.
-/

namespace Conform

inductive Tint where
  | red
  | green
  | yellow
  | blue
  | brightBlue
  | bold
  | boldRed
  | boldYellow
deriving DecidableEq, Repr

namespace Tint

/-- What turns a tint on. -/
def start : Tint → List Char
  | red => "\x1b[31m".toList
  | green => "\x1b[32m".toList
  | yellow => "\x1b[33m".toList
  | blue => "\x1b[34m".toList
  | brightBlue => "\x1b[94m".toList
  | bold => "\x1b[1m".toList
  | boldRed => "\x1b[1;31m".toList
  | boldYellow => "\x1b[1;33m".toList

/-- What turns every tint off. -/
def stop : List Char := "\x1b[0m".toList

/-- A text whose tint is turned on again wherever something in it turns it off. -/
def kept (tint : Tint) : List Char → List Char
  | '\x1b' :: '[' :: '0' :: 'm' :: cs => stop ++ tint.start ++ kept tint cs
  | c :: cs => c :: kept tint cs
  | [] => []

def paint (s : String) (tint : Tint) : String :=
  String.ofList (tint.start ++ tint.kept s.toList ++ stop)

end Tint

end Conform
