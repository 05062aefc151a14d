import Conform.Unicode.Property

/-!
What a character does to the bounds of the clusters, words and sentences that it is in, by the rules
of Unicode's text segmentation. Characters without a part in them have no value here.
-/

namespace Conform.Unicode
open CharSet (ofRanges points unions)

def zeroWidthJoiner : CharSet := points [0x200D]

def carriageReturn : CharSet := points [0xD]

def lineFeed : CharSet := points [0xA]

/-- Characters that belong to the cluster behind them. -/
def prepend : CharSet := ofRanges [
  (0x600, 0x605), (0x6DD, 0x6DD), (0x70F, 0x70F), (0x890, 0x891), (0x8E2, 0x8E2), (0xD4E, 0xD4E),
  (0x110BD, 0x110BD), (0x110CD, 0x110CD), (0x111C2, 0x111C3), (0x113D1, 0x113D1),
  (0x1193F, 0x1193F), (0x11941, 0x11941), (0x11A3A, 0x11A3A), (0x11A84, 0x11A89),
  (0x11D46, 0x11D46), (0x11F02, 0x11F02)]

/-- Characters that belong to the cluster in front of them. -/
def clusterExtend : CharSet := (graphemeExtend ∪ emojiModifier) \ zeroWidthJoiner

def clusterControl : CharSet :=
  unions [control, format, lineSeparator, paragraphSeparator,
    unassigned ∩ defaultIgnorableCodePoint] \
    unions [carriageReturn, lineFeed, zeroWidthJoiner, prepend, clusterExtend]

/-- Spacing marks that stand by themselves. -/
def standingMark : CharSet := ofRanges [
  (0x102B, 0x102C), (0x1038, 0x1038), (0x1062, 0x1064), (0x1067, 0x106D), (0x1083, 0x1083),
  (0x1087, 0x108C), (0x108F, 0x108F), (0x109A, 0x109C), (0x1A61, 0x1A61), (0x1A63, 0x1A64),
  (0xAA7B, 0xAA7B), (0xAA7D, 0xAA7D), (0x11720, 0x11721)]

def clusterMark : CharSet :=
  (spacingMark ∪ points [0xE33, 0xEB3]) \ (clusterExtend ∪ standingMark)

/-- Hangul syllables of two letters; those between them have a third one. -/
def openSyllable : CharSet := CharSet.ofProgressions [⟨0xAC00, 0xD788, 28⟩]

def clusterBreaks : List (List String × CharSet) := [
  (["control", "cn"], clusterControl),
  (["cr"], carriageReturn),
  (["extend", "ex"], clusterExtend),
  (["l"], ofRanges [(0x1100, 0x115F), (0xA960, 0xA97C)]),
  (["lf"], lineFeed),
  (["lv"], openSyllable),
  (["lvt"], CharSet.range 0xAC00 0xD7A3 \ openSyllable),
  (["prepend", "pp"], prepend),
  (["regionalindicator", "ri"], regionalIndicator),
  (["spacingmark", "sm"], clusterMark),
  (["t"], ofRanges [(0x11A8, 0x11FF), (0xD7CB, 0xD7FB)]),
  (["v"], ofRanges [
    (0x1160, 0x11A7), (0xD7B0, 0xD7C6), (0x16D63, 0x16D63), (0x16D67, 0x16D6A)]),
  (["zwj"], zeroWidthJoiner)]

/-- Characters that belong to the word in front of them. -/
def wordExtend : CharSet := clusterExtend ∪ (spacingMark \ zeroWidthJoiner)

def wordFormat : CharSet :=
  format \ unions [wordExtend, zeroWidthJoiner, prepend, points [0x200B]]

def wordKatakana : CharSet :=
  unions [ofScript "kana", ofRanges [(0x3031, 0x3035), (0x309B, 0x309C)],
    points [0x30A0, 0x30FC, 0xFF70]]

def hebrewLetter : CharSet := ofScript "hebr" ∩ otherLetter

/-- Scripts that put no spaces between words. -/
def unspaced : CharSet :=
  unions (["ahom", "khmr", "lana", "laoo", "mymr", "tale", "talu", "tavt", "thai"].map ofScript)

/-- Characters that count as letters of words without being alphabetic. -/
def letterLike : CharSet := ofRanges [
  (0x2C2, 0x2C5), (0x2D2, 0x2D7), (0x2DE, 0x2DF), (0x2E5, 0x2EB), (0x2ED, 0x2ED), (0x2EF, 0x2FF),
  (0x55A, 0x55C), (0x55E, 0x55E), (0x58A, 0x58A), (0x5F3, 0x5F3), (0x70F, 0x70F),
  (0xA708, 0xA716), (0xA720, 0xA721), (0xA789, 0xA78A), (0xAB5B, 0xAB5B)]

def wordLetter : CharSet :=
  (alphabetic ∪ letterLike) \
    unions [ideographic, wordKatakana, ofScript "hira", hebrewLetter, unspaced, wordExtend]

/-- Digits, and signs that numbers are written with. -/
def numeric : CharSet :=
  decimalNumber ∪ ofRanges [
    (0x600, 0x605), (0x66B, 0x66B), (0x6DD, 0x6DD), (0x890, 0x891), (0x8E2, 0x8E2),
    (0x19DA, 0x19DA), (0x110BD, 0x110BD), (0x110CD, 0x110CD)]

def wordBreaks : List (List String × CharSet) := [
  (["aletter", "le"], wordLetter),
  (["cr"], carriageReturn),
  (["doublequote", "dq"], points [0x22]),
  (["extend"], wordExtend),
  (["extendnumlet", "ex"], connectorPunctuation ∪ points [0x202F]),
  (["format", "fo"], wordFormat),
  (["hebrewletter", "hl"], hebrewLetter),
  (["katakana", "ka"], wordKatakana),
  (["lf"], lineFeed),
  (["midletter", "ml"],
    points [0x3A, 0xB7, 0x387, 0x55F, 0x5F4, 0x2027, 0xFE13, 0xFE55, 0xFF1A]),
  (["midnum", "mn"],
    points [0x2C, 0x3B, 0x37E, 0x589, 0x60C, 0x60D, 0x66C, 0x7F8, 0x2044, 0xFE50, 0xFE54, 0xFF0C,
      0xFF1B]),
  (["midnumlet", "mb"], points [0x2E, 0x2018, 0x2019, 0x2024, 0xFE52, 0xFF07, 0xFF0E]),
  (["newline", "nl"], points [0xB, 0xC, 0x85, 0x2028, 0x2029]),
  (["numeric", "nu"], numeric),
  (["regionalindicator", "ri"], regionalIndicator),
  (["singlequote", "sq"], points [0x27]),
  (["wsegspace"], spaceSeparator \ points [0xA0, 0x2007, 0x202F]),
  (["zwj"], zeroWidthJoiner)]

/-- Characters that belong to what stands in front of them in a sentence. -/
def sentenceExtend : CharSet := unions [graphemeExtend, spacingMark, zeroWidthJoiner]

def sentenceSeparator : CharSet := points [0x85, 0x2028, 0x2029]

/-- Periods, after which a sentence may go on. -/
def fullStop : CharSet := points [0x2E, 0x2024, 0xFE52, 0xFF0E]

/-- The two cases of Georgian letters do not open sentences. -/
def sentenceLower : CharSet :=
  lowercase \ (sentenceExtend ∪ ofRanges [(0x10D0, 0x10FA), (0x10FD, 0x10FF)])

def sentenceUpper : CharSet :=
  (titlecaseLetter ∪ uppercase) \
    (sentenceExtend ∪ ofRanges [(0x1C90, 0x1CBA), (0x1CBD, 0x1CBF)])

/-- Quotation marks that are not paired. -/
def plainQuote : CharSet := ofRanges [
  (0x22, 0x22), (0x27, 0x27), (0x275B, 0x2760), (0x2E00, 0x2E01), (0x2E06, 0x2E08),
  (0x2E0B, 0x2E0B), (0x1F676, 0x1F678)]

def sentenceBreaks : List (List String × CharSet) := [
  (["aterm", "at"], fullStop),
  (["cr"], carriageReturn),
  (["close", "cl"],
    unions [openPunctuation, closePunctuation, initialPunctuation, finalPunctuation, plainQuote]),
  (["extend", "ex"], sentenceExtend),
  (["format", "fo"], format \ unions [sentenceExtend, numeric]),
  (["lf"], lineFeed),
  (["lower", "lo"], sentenceLower),
  (["numeric", "nu"], numeric ∪ points [0x66C]),
  (["oletter", "le"],
    (alphabetic ∪ points [0x5F3]) \ unions [sentenceLower, sentenceUpper, sentenceExtend]),
  (["scontinue", "sc"], ofRanges [
    (0x2C, 0x2D), (0x3A, 0x3B), (0x37E, 0x37E), (0x55D, 0x55D), (0x60C, 0x60D), (0x7F8, 0x7F8),
    (0x1802, 0x1802), (0x1808, 0x1808), (0x2013, 0x2014), (0x3001, 0x3001), (0xFE10, 0xFE11),
    (0xFE13, 0xFE14), (0xFE31, 0xFE32), (0xFE50, 0xFE51), (0xFE54, 0xFE55), (0xFE58, 0xFE58),
    (0xFE63, 0xFE63), (0xFF0C, 0xFF0D), (0xFF1A, 0xFF1B), (0xFF64, 0xFF64)]),
  (["sep", "se"], sentenceSeparator),
  (["sp"], whiteSpace \ unions [sentenceSeparator, carriageReturn, lineFeed]),
  (["sterm", "st"], sentenceTerminal \ fullStop),
  (["upper", "up"], sentenceUpper)]

end Conform.Unicode
