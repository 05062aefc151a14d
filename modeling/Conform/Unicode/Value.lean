import Conform.Unicode.Age
import Conform.Unicode.Break
import Conform.Unicode.ScriptExtension

/-!
Character classes given by a property and a value of it.
-/

namespace Conform.Unicode

/-- The characters that a script is used with; those of `scriptExtensions` count for the scripts
that are listed there, whatever their own. -/
def scriptExtension? (name : String) : Option CharSet := do
  let (names, own) ← scripts.find? fun entry => entry.1.contains name
  let shared := scriptExtensions.filter fun entry => names.any entry.2.contains
  let listed := CharSet.ofRanges (scriptExtensions.flatMap (·.1))
  return (CharSet.ofRanges own \ listed) ∪ CharSet.ofRanges (shared.flatMap (·.1))

/-- The characters that were assigned in a version or before it. -/
def age? (version : String) : Option CharSet := do
  let index ← ages.findIdx? fun entry => entry.1.contains version
  return CharSet.ofRanges ((ages.take (index + 1)).flatMap (·.2))

/-- Properties with more values than two. -/
def valueTables : List (List String × (String → Option CharSet)) := [
  (["generalcategory", "gc"], category?),
  (["script", "sc"], script?),
  (["scriptextensions", "scx"], scriptExtension?),
  (["age"], age?),
  (["graphemeclusterbreak", "gcb"], fun value => findNamed? value clusterBreaks),
  (["wordbreak", "wb"], fun value => findNamed? value wordBreaks),
  (["sentencebreak", "sb"], fun value => findNamed? value sentenceBreaks)]

/-- The class of the characters for which a property has a value. -/
def valued? (property value : List Char) : Option CharSet := do
  let table ← findNamed? (normalizeName property) valueTables
  table (normalizeName value)

end Conform.Unicode
