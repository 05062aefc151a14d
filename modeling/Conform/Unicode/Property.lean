import Conform.Unicode.Category
import Conform.Unicode.Listed
import Conform.Unicode.Script

/-!
Character classes of Unicode 16.0 under the names that patterns give them.
-/

namespace Conform.Unicode
open CharSet (unions)

def letter : CharSet :=
  unions [uppercaseLetter, lowercaseLetter, titlecaseLetter, modifierLetter, otherLetter]

def casedLetter : CharSet := unions [uppercaseLetter, lowercaseLetter, titlecaseLetter]

def mark : CharSet := unions [nonspacingMark, spacingMark, enclosingMark]

def number : CharSet := unions [decimalNumber, letterNumber, otherNumber]

def punctuation : CharSet :=
  unions [connectorPunctuation, dashPunctuation, openPunctuation, closePunctuation,
    initialPunctuation, finalPunctuation, otherPunctuation]

def symbol : CharSet := unions [mathSymbol, currencySymbol, modifierSymbol, otherSymbol]

def separator : CharSet := unions [spaceSeparator, lineSeparator, paragraphSeparator]

def assigned : CharSet :=
  unions [letter, mark, number, punctuation, symbol, separator, control, format, privateUse]

def unassigned : CharSet := assigned.complement \ CharSet.range 0xD800 0xDFFF

def other : CharSet := unions [control, format, privateUse, unassigned]

def uppercase : CharSet := uppercaseLetter ∪ otherUppercase

def lowercase : CharSet := lowercaseLetter ∪ otherLowercase

def cased : CharSet := unions [uppercase, lowercase, titlecaseLetter]

def caseIgnorable : CharSet :=
  unions [nonspacingMark, enclosingMark, format, modifierLetter, modifierSymbol, wordMiddle]

def alphabetic : CharSet := unions [letter, letterNumber, uppercase, lowercase, otherAlphabetic]

def idStart : CharSet :=
  unions [letter, letterNumber, otherIdStart] \ (patternSyntax ∪ patternWhiteSpace)

def idContinue : CharSet :=
  unions [idStart, nonspacingMark, spacingMark, decimalNumber, connectorPunctuation,
    otherIdContinue]

def graphemeExtend : CharSet := unions [nonspacingMark, enclosingMark, otherGraphemeExtend]

def graphemeBase : CharSet :=
  assigned \ unions [control, format, privateUse, lineSeparator, paragraphSeparator,
    graphemeExtend]

def math : CharSet := mathSymbol ∪ otherMath

/-- The characters of words. -/
def word : CharSet := unions [alphabetic, mark, decimalNumber, connectorPunctuation, joinControl]

/-- Properties that a character has or has not. -/
def properties : List (List String × CharSet) := [
  (["asciihexdigit", "ahex"], asciiHexDigit),
  (["alphabetic", "alpha"], alphabetic),
  (["bidicontrol", "bidic"], bidiControl),
  (["caseignorable", "ci"], caseIgnorable),
  (["cased"], cased),
  (["changeswhencasefolded", "cwcf"], changesWhenCasefolded),
  (["changeswhencasemapped", "cwcm"], changesWhenCasemapped),
  (["changeswhenlowercased", "cwl"], changesWhenLowercased),
  (["changeswhentitlecased", "cwt"], changesWhenTitlecased),
  (["changeswhenuppercased", "cwu"], changesWhenUppercased),
  (["dash"], dash),
  (["defaultignorablecodepoint", "di"], defaultIgnorableCodePoint),
  (["deprecated", "dep"], deprecated),
  (["diacritic", "dia"], diacritic),
  (["emoji"], emoji),
  (["emojicomponent", "ecomp"], emojiComponent),
  (["emojimodifier", "emod"], emojiModifier),
  (["emojimodifierbase", "ebase"], emojiModifierBase),
  (["emojipresentation", "epres"], emojiPresentation),
  (["extendedpictographic", "extpict"], extendedPictographic),
  (["extender", "ext"], extender),
  (["graphemebase", "grbase"], graphemeBase),
  (["graphemeextend", "grext"], graphemeExtend),
  (["hexdigit", "hex"], hexDigit),
  (["idsbinaryoperator", "idsb"], idsBinaryOperator),
  (["idstrinaryoperator", "idst"], idsTrinaryOperator),
  (["idcontinue", "idc"], idContinue),
  (["idstart", "ids"], idStart),
  (["ideographic", "ideo"], ideographic),
  (["joincontrol", "joinc"], joinControl),
  (["logicalorderexception", "loe"], logicalOrderException),
  (["lowercase", "lower"], lowercase),
  (["math"], math),
  (["noncharactercodepoint", "nchar"], noncharacterCodePoint),
  (["patternsyntax", "patsyn"], patternSyntax),
  (["patternwhitespace", "patws"], patternWhiteSpace),
  (["quotationmark", "qmark"], quotationMark),
  (["radical"], radical),
  (["regionalindicator", "ri"], regionalIndicator),
  (["sentenceterminal", "sterm"], sentenceTerminal),
  (["softdotted", "sd"], softDotted),
  (["terminalpunctuation", "term"], terminalPunctuation),
  (["unifiedideograph", "uideo"], unifiedIdeograph),
  (["uppercase", "upper"], uppercase),
  (["variationselector", "vs"], variationSelector),
  (["whitespace", "space", "wspace"], whiteSpace),
  (["xidcontinue", "xidc"], idContinue \ unstableIdContinue),
  (["xidstart", "xids"], idStart \ unstableIdStart)]

def categories : List (List String × CharSet) := [
  (["any"], CharSet.all),
  (["assigned"], assigned),
  (["ascii"], CharSet.range 0 0x7F),
  (["other", "c"], other),
  (["control", "cntrl", "cc"], control),
  (["format", "cf"], format),
  (["unassigned", "cn"], unassigned),
  (["privateuse", "co"], privateUse),
  (["letter", "l"], letter),
  (["casedletter", "lc"], casedLetter),
  (["lowercaseletter", "ll"], lowercaseLetter),
  (["modifierletter", "lm"], modifierLetter),
  (["otherletter", "lo"], otherLetter),
  (["titlecaseletter", "lt"], titlecaseLetter),
  (["uppercaseletter", "lu"], uppercaseLetter),
  (["mark", "combiningmark", "m"], mark),
  (["spacingmark", "mc"], spacingMark),
  (["enclosingmark", "me"], enclosingMark),
  (["nonspacingmark", "mn"], nonspacingMark),
  (["number", "n"], number),
  (["decimalnumber", "digit", "nd"], decimalNumber),
  (["letternumber", "nl"], letterNumber),
  (["othernumber", "no"], otherNumber),
  (["punctuation", "punct", "p"], punctuation),
  (["connectorpunctuation", "pc"], connectorPunctuation),
  (["dashpunctuation", "pd"], dashPunctuation),
  (["closepunctuation", "pe"], closePunctuation),
  (["finalpunctuation", "pf"], finalPunctuation),
  (["initialpunctuation", "pi"], initialPunctuation),
  (["otherpunctuation", "po"], otherPunctuation),
  (["openpunctuation", "ps"], openPunctuation),
  (["symbol", "s"], symbol),
  (["currencysymbol", "sc"], currencySymbol),
  (["modifiersymbol", "sk"], modifierSymbol),
  (["mathsymbol", "sm"], mathSymbol),
  (["othersymbol", "so"], otherSymbol),
  (["separator", "z"], separator),
  (["lineseparator", "zl"], lineSeparator),
  (["paragraphseparator", "zp"], paragraphSeparator),
  (["spaceseparator", "zs"], spaceSeparator)]

/-- A name with case, spaces, hyphens, underscores and a leading `is` put aside. -/
def normalizeName (name : List Char) : String :=
  let starts := name.take 2 |>.map Char.toLower |>.beq ['i', 's']
  let kept := (if starts then name.drop 2 else name).filter fun c =>
    c ≠ ' ' ∧ c ≠ '_' ∧ c ≠ '-' ∧ c.toNat < 128
  let lower := kept.map Char.toLower
  if starts ∧ lower = ['c'] then "isc" else String.ofList lower

/-- The entry of a table that has a name among its names. -/
def findNamed? {α : Type} (name : String) (table : List (List String × α)) : Option α :=
  (table.find? fun entry => entry.1.contains name).map (·.2)

def category? (name : String) : Option CharSet := findNamed? name categories

def script? (name : String) : Option CharSet := (findNamed? name scripts).map CharSet.ofRanges

/-- The characters of a script that there is. -/
def ofScript (name : String) : CharSet := (script? name).getD CharSet.empty

/-- The class with a name. Three names of categories are also short names of properties that
are no classes; there the category is meant. -/
def named? (name : List Char) : Option CharSet :=
  let name := normalizeName name
  let property :=
    if name = "cf" ∨ name = "sc" ∨ name = "lc" then none else findNamed? name properties
  property.or ((category? name).or (script? name))

end Conform.Unicode
