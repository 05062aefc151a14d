import Conform.Yaml.Scalar.Folding

/-!
Scalars without quotes.
-/

namespace Conform.Yaml

/-- A plain scalar, with the gap that follows it; inside flow collections it ends at their
delimiters, outside it ends where a line is indented by less than `indent`. -/
def plainScalar (flow : Bool) (indent : Nat) (f : Folding) (p : Position) :
    List Char → Except Fault (Folding × Cursor)
  | [] => .ok (f, ⟨[], p⟩)
  | c :: cs =>
    if isBlank c then
      if c = '\t' && f.onNewLine && p.column < indent then
        .error (.unreadable .tabIndentation p)
      else plainScalar flow indent (f.blank c) (p.skip 1) cs
    else if isBreak c then plainScalar flow indent (f.lineEnd c) p.newline cs
    else if (f.inGap && (c = '#' || (!flow && p.column < indent))) ||
        (p.column = 0 && markerAhead (c :: cs)) || (c = ':' && blankAhead cs) ||
        (flow && isFlowDelimiter c) then .ok (f, ⟨c :: cs, p⟩)
    else if flow && c = ':' && startsWith (fun d => isFlowDelimiter d || d = '?') false cs then
      .error (.unreadable .colonInFlow p)
    else plainScalar flow indent (f.push c) (p.skip 1) cs

end Conform.Yaml
