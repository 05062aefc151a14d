/-!
How alike two texts are: the share of characters that they have in common at nearly the same
places, less for those in another order.
-/

namespace Conform.Text

/-- The first place from `low` on, before `high`, that holds a character and is not taken yet. -/
def freePlace? (c : Char) (low high : Nat) (taken : List Nat) (cs : List Char) : Option Nat :=
  (List.range high).find? fun i => low ≤ i && cs[i]? == some c && !taken.contains i

/-- The places in `bs` that match characters of `as` in turn, at most `window` away. -/
def matchedPlaces (window : Nat) (bs : List Char) : Nat → List Nat → List Char → List (Char × Nat)
  | _, _, [] => []
  | place, taken, a :: as =>
    match freePlace? a (place - window) (min (place + window + 1) bs.length) taken bs with
    | some i => (a, i) :: matchedPlaces window bs (place + 1) (i :: taken) as
    | none => matchedPlaces window bs (place + 1) taken as

/-- Three times the similarity of two texts, as a fraction. Without common characters it is zero,
but two empty texts are the same. -/
def similarity (a b : String) : Nat × Nat :=
  let as := a.toList
  let bs := b.toList
  if as.isEmpty && bs.isEmpty then (3, 1)
  else
    let window := max as.length bs.length / 2 - 1
    let found := matchedPlaces window bs 0 [] as
    let m := found.length
    let inOrder := (found.map (·.2)).mergeSort (· ≤ ·)
    let displaced := (found.zip inOrder).countP fun ((c, _), i) => bs[i]? != some c
    let exchanged := displaced / 2
    if m = 0 then (0, 1)
    else
      let s := as.length
      let t := bs.length
      (m * m * t + m * m * s + (m - exchanged) * s * t, m * s * t)

/-- More than seven tenths of the whole. -/
def isSimilar (a b : String) : Bool :=
  let (n, d) := similarity a b
  21 * d < 10 * n

/-- Whether a text is at least as similar to the second choice as to the first. -/
def prefers (text first second : String) : Bool :=
  let (n, d) := similarity text first
  let (n', d') := similarity text second
  n * d' ≤ n' * d

/-- The choice most similar to a text, the later one of two that are equally so. -/
def mostSimilar? (text : String) (choices : List String) : Option String :=
  (choices.filter (isSimilar text)).foldl
    (fun best choice =>
      match best with
      | some first => if prefers text first choice then some choice else some first
      | none => some choice)
    none

end Conform.Text
