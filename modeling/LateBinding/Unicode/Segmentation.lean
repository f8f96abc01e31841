import LateBinding.Unicode.DerivedProperty
import LateBinding.Unicode.Script

/-! # Segmentation classes

The classes by which a text is divided into user-perceived characters, words and sentences. -/

namespace LateBinding.Unicode.Segmentation

open Charset Category Property

/-- The Hangul syllables without a final consonant. -/
def openSyllable : List Run := [⟨0xac00, 0xd788, 28⟩]

def closedSyllable : Charset := diff (range 0xac00 0xd7a3) (runs openSyllable)

/-- Consonants written before the cluster that they belong to. -/
def precedingConsonant : List Run := solid
  [(0xd4e, 0xd4e), (0x111c2, 0x111c3), (0x113d1, 0x113d1), (0x1193f, 0x1193f), (0x11941, 0x11941),
   (0x11a3a, 0x11a3a), (0x11a84, 0x11a89), (0x11d46, 0x11d46), (0x11f02, 0x11f02)]

def prepend : Charset := union (runs prependedConcatenationMark) (runs precedingConsonant)

def extend : Charset := union graphemeExtend (runs emojiModifier)

def vowelPart : List Run := solid
  [(0x1160, 0x11a7), (0xd7b0, 0xd7c6), (0x16d63, 0x16d63), (0x16d67, 0x16d6a)]

/-- Spacing marks that begin a cluster of their own. -/
def detachedMark : List Run := solid
  [(0x102b, 0x102c), (0x1038, 0x1038), (0x1062, 0x1064), (0x1067, 0x106d), (0x1083, 0x1083),
   (0x1087, 0x108c), (0x108f, 0x108f), (0x109a, 0x109c), (0x1a61, 0x1a61), (0x1a63, 0x1a64),
   (0xaa7b, 0xaa7b), (0xaa7d, 0xaa7d), (0x11720, 0x11721)]

def attachedMark : Charset :=
  diff (unionAll [runs spacingMark, range 0xe33 0xe33, range 0xeb3 0xeb3])
    (union extend (runs detachedMark))

def invisibleUnassigned : Charset := inter unassigned defaultIgnorable

def control : Charset :=
  diff (unionAll [runs lineSeparator, runs paragraphSeparator, runs Category.control, runs format,
      invisibleUnassigned])
    (unionAll [range 0xa 0xa, range 0xd 0xd, range 0x200d 0x200d, prepend, extend])

/-- The classes of user-perceived characters. -/
def graphemeClusterBreak : List (List String × Charset) :=
  [(["cr"], range 0xd 0xd), (["lf"], range 0xa 0xa), (["control", "cn"], control),
   (["extend", "ex"], extend), (["zwj"], range 0x200d 0x200d),
   (["regionalindicator", "ri"], runs regionalIndicator), (["prepend", "pp"], prepend),
   (["spacingmark", "sm"], attachedMark),
   (["l"], runs (solid [(0x1100, 0x115f), (0xa960, 0xa97c)])), (["v"], runs vowelPart),
   (["t"], runs (solid [(0x11a8, 0x11ff), (0xd7cb, 0xd7fb)])), (["lv"], runs openSyllable),
   (["lvt"], closedSyllable)]

/-- Marks before a number. One more of their kind is written before words. -/
def numberMark : Charset := diff (runs prependedConcatenationMark) (range 0x70f 0x70f)

def numeric : Charset := unionAll [runs decimalNumber, range 0x66b 0x66b, numberMark]

def spacingExtend : Charset := union graphemeExtend (runs spacingMark)

def katakana : Charset :=
  union (runs Script.katakana)
    (runs (solid [(0x3031, 0x3035), (0x309b, 0x309c), (0x30a0, 0x30a0), (0x30fc, 0x30fc),
      (0xff70, 0xff70)]))

def hebrewLetter : Charset := inter (runs Script.hebrew) (runs otherLetter)

/-- Characters that are part of words without being alphabetic. -/
def otherWordLetter : List Run := solid
  [(0x2c2, 0x2c5), (0x2d2, 0x2d7), (0x2de, 0x2df), (0x2e5, 0x2eb), (0x2ed, 0x2ed), (0x2ef, 0x2ff),
   (0x55a, 0x55c), (0x55e, 0x55e), (0x58a, 0x58a), (0x5f3, 0x5f3), (0x70f, 0x70f), (0xa708, 0xa716),
   (0xa720, 0xa721), (0xa789, 0xa78a), (0xab5b, 0xab5b)]

/-- Characters of scripts whose words are found by a dictionary alone. -/
def complexContext : List Run := solid
  [(0xe01, 0xe3a), (0xe40, 0xe4e), (0xe81, 0xe82), (0xe84, 0xe84), (0xe86, 0xe8a), (0xe8c, 0xea3),
   (0xea5, 0xea5), (0xea7, 0xebd), (0xec0, 0xec4), (0xec6, 0xec6), (0xec8, 0xece), (0xedc, 0xedf),
   (0x1000, 0x103f), (0x1050, 0x108f), (0x109a, 0x109f), (0x1780, 0x17d3), (0x17d7, 0x17d7),
   (0x17dc, 0x17dd), (0x1950, 0x196d), (0x1970, 0x1974), (0x1980, 0x19ab), (0x19b0, 0x19c9),
   (0x19da, 0x19da), (0x19de, 0x19df), (0x1a20, 0x1a5e), (0x1a60, 0x1a7c), (0x1aa0, 0x1aad),
   (0xa9e0, 0xa9ef), (0xa9fa, 0xa9fe), (0xaa60, 0xaac2), (0xaadb, 0xaadf), (0x11700, 0x1171a),
   (0x1171d, 0x1172b), (0x1173a, 0x1173b), (0x1173f, 0x11746)]

def wordExtend : Charset := diff (union extend (runs spacingMark)) (range 0x200d 0x200d)

def wordLetter : Charset :=
  diff (union alphabetic (runs otherWordLetter))
    (unionAll [runs ideographic, katakana, runs complexContext, runs Script.hiragana, wordExtend,
      hebrewLetter])

def midNumber : List Run := solid
  [(0x2c, 0x2c), (0x3b, 0x3b), (0x37e, 0x37e), (0x589, 0x589), (0x60c, 0x60d), (0x66c, 0x66c),
   (0x7f8, 0x7f8), (0x2044, 0x2044), (0xfe10, 0xfe10), (0xfe14, 0xfe14), (0xfe50, 0xfe50),
   (0xfe54, 0xfe54), (0xff0c, 0xff0c), (0xff1b, 0xff1b)]

def wordFormat : Charset :=
  diff (runs format)
    (unionAll [range 0x200b 0x200d, runs prependedConcatenationMark, graphemeExtend])

/-- The classes of words. -/
def wordBreak : List (List String × Charset) :=
  [(["cr"], range 0xd 0xd), (["lf"], range 0xa 0xa),
   (["newline", "nl"], runs (solid [(0xb, 0xc), (0x85, 0x85), (0x2028, 0x2029)])),
   (["doublequote", "dq"], range 0x22 0x22), (["singlequote", "sq"], range 0x27 0x27),
   (["extend"], wordExtend), (["zwj"], range 0x200d 0x200d), (["format", "fo"], wordFormat),
   (["regionalindicator", "ri"], runs regionalIndicator), (["katakana", "ka"], katakana),
   (["hebrewletter", "hl"], hebrewLetter), (["aletter", "le"], wordLetter),
   (["midletter", "ml"], runs midLetter), (["midnumlet", "mb"], runs midNumLet),
   (["midnum", "mn"], runs midNumber), (["numeric", "nu"], numeric),
   (["extendnumlet", "ex"], union (runs connectorPunctuation) (range 0x202f 0x202f)),
   (["wsegspace"], diff (runs spaceSeparator)
      (unionAll [range 0xa0 0xa0, range 0x2007 0x2007, range 0x202f 0x202f]))]

def fullStop : List Run := solid
  [(0x2e, 0x2e), (0x2024, 0x2024), (0xfe52, 0xfe52), (0xff0e, 0xff0e)]

def sentenceExtend : Charset := union spacingExtend (range 0x200d 0x200d)

/-- Georgian letters of either form have no case where sentences are concerned. -/
def sentenceLower : Charset :=
  diff lowercase (unionAll [graphemeExtend, range 0x10d0 0x10fa, range 0x10fd 0x10ff])

def sentenceUpper : Charset :=
  diff (union (runs titlecaseLetter) uppercase) (union (range 0x1c90 0x1cba) (range 0x1cbd 0x1cbf))

def caselessLetter : Charset :=
  diff (union alphabetic (range 0x5f3 0x5f3))
    (unionAll [sentenceLower, sentenceUpper, sentenceExtend])

def terminal : Charset := diff (runs sentenceTerminal) (runs fullStop)

/-- Quotation marks whose side is not known. -/
def looseQuote : List Run := solid
  [(0x22, 0x22), (0x27, 0x27), (0xab, 0xab), (0xbb, 0xbb), (0x2018, 0x2019), (0x201b, 0x201d),
   (0x201f, 0x201f), (0x2039, 0x203a), (0x275b, 0x2760), (0x2e00, 0x2e0d), (0x2e1c, 0x2e1d),
   (0x2e20, 0x2e21), (0x1f676, 0x1f678)]

def close : Charset :=
  diff (unionAll [runs openPunctuation, runs closePunctuation, runs initialPunctuation,
      runs finalPunctuation, runs looseQuote])
    (unionAll [range 0x5f3 0x5f3, runs fullStop, terminal])

def sentenceContinue : List Run := solid
  [(0x2c, 0x2d), (0x3a, 0x3b), (0x37e, 0x37e), (0x55d, 0x55d), (0x60c, 0x60d), (0x7f8, 0x7f8),
   (0x1802, 0x1802), (0x1808, 0x1808), (0x2013, 0x2014), (0x3001, 0x3001), (0xfe10, 0xfe11),
   (0xfe13, 0xfe14), (0xfe31, 0xfe32), (0xfe50, 0xfe51), (0xfe54, 0xfe55), (0xfe58, 0xfe58),
   (0xfe63, 0xfe63), (0xff0c, 0xff0d), (0xff1a, 0xff1b), (0xff64, 0xff64)]

/-- The classes of sentences. -/
def sentenceBreak : List (List String × Charset) :=
  [(["cr"], range 0xd 0xd), (["lf"], range 0xa 0xa),
   (["sep", "se"], runs (solid [(0x85, 0x85), (0x2028, 0x2029)])),
   (["extend", "ex"], sentenceExtend),
   (["format", "fo"], diff (runs format)
     (unionAll [range 0x200c 0x200d, numberMark, graphemeExtend])),
   (["sp"], diff (runs whiteSpace)
      (unionAll [range 0xa 0xa, range 0xd 0xd, range 0x85 0x85, range 0x2028 0x2029])),
   (["lower", "lo"], sentenceLower), (["upper", "up"], sentenceUpper),
   (["oletter", "le"], caselessLetter), (["numeric", "nu"], union numeric (range 0x66c 0x66c)),
   (["aterm", "at"], runs fullStop), (["sterm", "st"], terminal), (["close", "cl"], close),
   (["scontinue", "sc"], runs sentenceContinue)]

end LateBinding.Unicode.Segmentation
