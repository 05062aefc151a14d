import Conform.Yaml.Node

/-!
Nodes read from tokens. Every function takes the tokens that are left and hands on those that it
does not use; the first argument bounds the calls and is more than the number of tokens needs.
-/

namespace Conform.Yaml

/-- The handles that a document declares and the beginnings of tags that they stand for. -/
abbrev Handles := List (String × String)

/-- Neither of the tokens that may come next does. -/
def refuse {α : Type} (problem : Problem) : List Token → Except Fault α
  | .invalid f :: _ => .error f
  | _ => .error (.malformed problem)

def fullTag (handles : Handles) (handle suffix : String) : Except Fault String :=
  if handle.isEmpty then .ok suffix
  else
    match handles.find? (·.1 == handle) with
    | some (_, beginning) => .ok (beginning ++ suffix)
    | none => .error (.malformed .undefinedHandle)

/-- A tag and an anchor, in either order. -/
def properties (handles : Handles) : List Token → Except Fault (Properties String × List Token)
  | .anchor a :: .tag h s :: ts => do return (⟨some (← fullTag handles h s), some a⟩, ts)
  | .anchor a :: ts => .ok (⟨none, some a⟩, ts)
  | .tag h s :: .anchor a :: ts => do return (⟨some (← fullTag handles h s), some a⟩, ts)
  | .tag h s :: ts => do return (⟨some (← fullTag handles h s), none⟩, ts)
  | ts => .ok (⟨none, none⟩, ts)

/-- On a scalar that is written out, the tag `!` says no more than no tag. -/
def scalarProperties (p : Properties String) : Properties String :=
  if p.tag == some "!" then { p with tag := none } else p

/-- A key or a value of a block mapping is left out. -/
def blockNodeAbsent : List Token → Bool
  | .key :: _ | .value :: _ | .blockEnd :: _ => true
  | _ => false

mutual

/-- A node; `block` admits block collections, and `indentless` a block sequence that is not
indented against the mapping around it. -/
def node (handles : Handles) (block indentless : Bool) :
    Nat → List Token → Except Fault (Node String × List Token)
  | 0, ts => refuse .contentExpected ts
  | fuel + 1, ts =>
    match ts with
    | .alias name :: ts => .ok (.alias name, ts)
    | ts => do
      let (p, ts) ← properties handles ts
      let otherwise :=
        if p.tag.isSome || p.anchor.isSome then .ok (.scalar p "" .plain, ts)
        else refuse .contentExpected ts
      match ts with
      | .scalar text style :: ts => return (.scalar (scalarProperties p) text style, ts)
      | .leftBracket :: ts =>
        let (items, ts) ← flowSequence handles true [] fuel ts
        return (.sequence p items, ts)
      | .leftBrace :: ts =>
        let (entries, ts) ← flowMapping handles true [] fuel ts
        return (.mapping p entries, ts)
      | .entry :: _ =>
        if indentless then
          let (items, ts) ← indentlessSequence handles [] fuel ts
          return (.sequence p items, ts)
        else otherwise
      | .blockSequence :: rest =>
        if block then
          let (items, ts) ← blockSequence handles [] fuel rest
          return (.sequence p items, ts)
        else otherwise
      | .blockMapping :: rest =>
        if block then
          let (entries, ts) ← blockMapping handles [] fuel rest
          return (.mapping p entries, ts)
        else otherwise
      | _ => otherwise

def blockSequence (handles : Handles) (done : List (Node String)) :
    Nat → List Token → Except Fault (List (Node String) × List Token)
  | 0, ts => refuse .entryExpected ts
  | fuel + 1, ts =>
    match ts with
    | .blockEnd :: ts => .ok (done.reverse, ts)
    | .entry :: .entry :: ts => blockSequence handles (.absent :: done) fuel (.entry :: ts)
    | .entry :: .blockEnd :: ts => .ok ((.absent :: done).reverse, ts)
    | .entry :: ts =>
      match node handles true false fuel ts with
      | .ok (n, ts) => blockSequence handles (n :: done) fuel ts
      | .error f => .error f
    | ts => refuse .entryExpected ts

def indentlessSequence (handles : Handles) (done : List (Node String)) :
    Nat → List Token → Except Fault (List (Node String) × List Token)
  | 0, ts => refuse .entryExpected ts
  | fuel + 1, ts =>
    match ts with
    | .entry :: .entry :: ts => indentlessSequence handles (.absent :: done) fuel (.entry :: ts)
    | .entry :: ts =>
      if blockNodeAbsent ts then indentlessSequence handles (.absent :: done) fuel ts
      else
        match node handles true false fuel ts with
        | .ok (n, ts) => indentlessSequence handles (n :: done) fuel ts
        | .error f => .error f
    | ts => .ok (done.reverse, ts)

/-- A key or a value of a block mapping, from after its indicator. -/
def blockPart (handles : Handles) : Nat → List Token → Except Fault (Node String × List Token)
  | 0, ts => refuse .contentExpected ts
  | fuel + 1, ts =>
    if blockNodeAbsent ts then .ok (.absent, ts) else node handles true true fuel ts

def blockMapping (handles : Handles) (done : List (Node String × Node String)) :
    Nat → List Token → Except Fault (List (Node String × Node String) × List Token)
  | 0, ts => refuse .mappingKeyExpected ts
  | fuel + 1, ts =>
    match ts with
    | .blockEnd :: ts => .ok (done.reverse, ts)
    | .key :: ts =>
      match blockPart handles fuel ts with
      | .ok (k, .value :: ts) =>
        match blockPart handles fuel ts with
        | .ok (v, ts) => blockMapping handles ((k, v) :: done) fuel ts
        | .error f => .error f
      | .ok (k, ts) => blockMapping handles ((k, .absent) :: done) fuel ts
      | .error f => .error f
    | ts => refuse .mappingKeyExpected ts

/-- What follows the colon of a flow collection; nothing does before a comma or the end. -/
def flowValue (handles : Handles) (closing : Token) :
    Nat → List Token → Except Fault (Node String × List Token)
  | 0, ts => refuse .contentExpected ts
  | fuel + 1, ts =>
    match ts with
    | .value :: t :: ts =>
      if t = .comma ∨ t = closing then .ok (.absent, t :: ts)
      else node handles false false fuel (t :: ts)
    | ts => .ok (.absent, ts)

/-- A mapping of one entry inside a flow sequence, from after its key indicator. Where no key is
written, the token in its place is passed over. -/
def flowPair (handles : Handles) : Nat → List Token → Except Fault (Node String × List Token)
  | 0, ts => refuse .contentExpected ts
  | fuel + 1, ts => do
    let (k, ts) ←
      match ts with
      | .value :: ts | .comma :: ts | .rightBracket :: ts => pure (.absent, ts)
      | ts => node handles false false fuel ts
    let (v, ts) ← flowValue handles .rightBracket fuel ts
    return (.mapping ⟨none, none⟩ [(k, v)], ts)

/-- An item of a flow sequence. -/
def flowItem (handles : Handles) : Nat → List Token → Except Fault (Node String × List Token)
  | 0, ts => refuse .contentExpected ts
  | fuel + 1, ts =>
    match ts with
    | .key :: ts => flowPair handles fuel ts
    | ts => node handles false false fuel ts

def flowSequence (handles : Handles) (first : Bool) (done : List (Node String)) :
    Nat → List Token → Except Fault (List (Node String) × List Token)
  | 0, ts => refuse .flowSequenceEnd ts
  | fuel + 1, ts =>
    match first, ts with
    | _, .rightBracket :: ts => .ok (done.reverse, ts)
    | false, .comma :: .rightBracket :: ts => .ok (done.reverse, ts)
    | true, ts =>
      match flowItem handles fuel ts with
      | .ok (n, ts) => flowSequence handles false (n :: done) fuel ts
      | .error f => .error f
    | false, .comma :: ts =>
      match flowItem handles fuel ts with
      | .ok (n, ts) => flowSequence handles false (n :: done) fuel ts
      | .error f => .error f
    | false, ts => refuse .flowSequenceEnd ts

/-- An entry of a flow mapping; a node without a key indicator is a key without a value. -/
def flowEntry (handles : Handles) :
    Nat → List Token → Except Fault ((Node String × Node String) × List Token)
  | 0, ts => refuse .contentExpected ts
  | fuel + 1, ts =>
    match ts with
    | .key :: ts => do
      let (k, ts) ←
        match ts with
        | .value :: _ | .comma :: _ | .rightBrace :: _ => pure (.absent, ts)
        | ts => node handles false false fuel ts
      let (v, ts) ← flowValue handles .rightBrace fuel ts
      return ((k, v), ts)
    | ts => do
      let (k, ts) ← node handles false false fuel ts
      return ((k, .absent), ts)

def flowMapping (handles : Handles) (first : Bool) (done : List (Node String × Node String)) :
    Nat → List Token → Except Fault (List (Node String × Node String) × List Token)
  | 0, ts => refuse .flowMappingEnd ts
  | fuel + 1, ts =>
    match first, ts with
    | _, .rightBrace :: ts => .ok (done.reverse, ts)
    | false, .comma :: .rightBrace :: ts => .ok (done.reverse, ts)
    | true, ts =>
      match flowEntry handles fuel ts with
      | .ok (e, ts) => flowMapping handles false (e :: done) fuel ts
      | .error f => .error f
    | false, .comma :: ts =>
      match flowEntry handles fuel ts with
      | .ok (e, ts) => flowMapping handles false (e :: done) fuel ts
      | .error f => .error f
    | false, ts => refuse .flowMappingEnd ts

end

/-- The directives before a document: at most one version, each handle at most once. -/
def directives (versionSeen : Bool) (handles : Handles) :
    List Token → Except Fault (Handles × List Token)
  | .version major minor :: ts =>
    if versionSeen then .error (.malformed .repeatedDirective)
    else if major = 1 ∧ (minor = 1 ∨ minor = 2) then directives true handles ts
    else .error (.malformed .unsupportedVersion)
  | .handle name beginning :: ts =>
    if handles.any (·.1 == name) then .error (.malformed .repeatedDirective)
    else directives versionSeen ((name, beginning) :: handles) ts
  | ts => .ok (handles, ts)

/-- The handles that every document has unless it declares them itself. -/
def withDefaults (handles : Handles) : Handles :=
  handles ++ [("!", "!"), ("!!", "tag:yaml.org,2002:")]

def bound (ts : List Token) : Nat := 4 * ts.length + 4

/-- The root of a document after `---`. -/
def explicitRoot (handles : Handles) (ts : List Token) : Except Fault (Node String × List Token) :=
  match ts with
  | .version .. :: _ | .handle .. :: _ | .documentStart :: _ | .documentEnd :: _
  | .streamEnd :: _ => .ok (.absent, ts)
  | ts => node handles true false (bound ts) ts

/-- A document from its directives or its `---` on. -/
def explicitDocument (ts : List Token) : Except Fault (Node String × List Token) := do
  let (handles, ts) ← directives false [] ts
  match ts with
  | .documentStart :: ts => explicitRoot (withDefaults handles) ts
  | ts => refuse .documentStartExpected ts

/-- The tokens after a document; its end may be marked. -/
def afterDocument : List Token → Except Fault (List Token)
  | .invalid f :: _ => .error f
  | .documentEnd :: ts => .ok ts
  | ts => .ok ts

/-- The next document, or `none` at the end of the stream. Only the first may do without `---`,
and a stream without any holds one that is absent. -/
def document? (first : Bool) (ts : List Token) : Except Fault (Option (Node String × List Token)) :=
  let ts := if first then ts else ts.dropWhile (· = .documentEnd)
  match ts with
  | .streamEnd :: _ => .ok (if first then some (.absent, ts) else none)
  | .version .. :: _ | .handle .. :: _ | .documentStart :: _ => do
    let (n, ts) ← explicitDocument ts
    return some (n, ← afterDocument ts)
  | ts =>
    if first then do
      let (n, ts) ← node (withDefaults []) true false (bound ts) ts
      return some (n, ← afterDocument ts)
    else refuse .documentStartExpected ts

/-- The documents up to the first that cannot be read. -/
def documentsFrom (first : Bool) : Nat → List Token → List (Except Fault (Node String))
  | 0, _ => []
  | fuel + 1, ts =>
    match document? first ts with
    | .error f => [.error f]
    | .ok none => []
    | .ok (some (n, ts)) => .ok n :: documentsFrom false fuel ts

end Conform.Yaml
