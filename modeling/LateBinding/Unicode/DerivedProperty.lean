import LateBinding.Unicode.Category
import LateBinding.Unicode.Property

/-! # Derived properties

The binary properties that the Unicode standard defines from the general categories and the listed
properties. -/

namespace LateBinding.Unicode.Property

open Charset Category

def lowercase : Charset := union (runs lowercaseLetter) (runs otherLowercase)

def uppercase : Charset := union (runs uppercaseLetter) (runs otherUppercase)

def cased : Charset := unionAll [lowercase, uppercase, runs titlecaseLetter]

def alphabetic : Charset :=
  unionAll [cased, runs modifierLetter, runs otherLetter, runs letterNumber, runs otherAlphabetic]

def math : Charset := union (runs mathSymbol) (runs otherMath)

/-- Marks that stand between the letters of one word. -/
def midLetter : List Run := solid
  [(0x3a, 0x3a), (0xb7, 0xb7), (0x387, 0x387), (0x55f, 0x55f), (0x5f4, 0x5f4), (0x2027, 0x2027),
   (0xfe13, 0xfe13), (0xfe55, 0xfe55), (0xff1a, 0xff1a)]

/-- Marks that stand between letters and between digits. -/
def midNumLet : List Run := solid
  [(0x2e, 0x2e), (0x2018, 0x2019), (0x2024, 0x2024), (0xfe52, 0xfe52), (0xff07, 0xff07),
   (0xff0e, 0xff0e)]

def caseIgnorable : Charset :=
  unionAll [range 0x27 0x27, runs midLetter, runs midNumLet, runs nonspacingMark,
    runs enclosingMark, runs format, runs modifierLetter, runs modifierSymbol]

def changesWhenCasemapped : Charset :=
  unionAll [runs changesWhenLowercased, runs changesWhenUppercased, runs changesWhenTitlecased]

def graphemeExtend : Charset :=
  unionAll [runs nonspacingMark, runs enclosingMark, runs otherGraphemeExtend]

def graphemeBase : Charset :=
  compl (unionAll [other, runs lineSeparator, runs paragraphSeparator, graphemeExtend])

def patternReserved : Charset := union (runs patternMark) (runs patternWhiteSpace)

def idStart : Charset :=
  diff (unionAll [letter, runs letterNumber, runs otherIdStart]) patternReserved

def idContinue : Charset :=
  union idStart (diff (unionAll [runs nonspacingMark, runs spacingMark, runs decimalNumber,
    runs connectorPunctuation, runs otherIdContinue]) patternReserved)

/-- Characters whose compatibility forms are no identifiers although they are. -/
def unstableInside : List Run := solid
  [(0x37a, 0x37a), (0x309b, 0x309c), (0xfc5e, 0xfc63), (0xfdfa, 0xfdfb), (0xfe70, 0xfe70),
   (0xfe72, 0xfe72), (0xfe74, 0xfe74), (0xfe76, 0xfe76), (0xfe78, 0xfe78), (0xfe7a, 0xfe7a),
   (0xfe7c, 0xfe7c), (0xfe7e, 0xfe7e)]

/-- Characters whose compatibility forms begin with what cannot begin an identifier. -/
def unstableStart : List Run := solid
  [(0xe33, 0xe33), (0xeb3, 0xeb3), (0xff9e, 0xff9f)]

def xidStart : Charset := diff idStart (union (runs unstableInside) (runs unstableStart))

def xidContinue : Charset := diff idContinue (runs unstableInside)

/-- Format characters that are to be seen. -/
def visibleFormat : List Run := solid
  [(0xfff9, 0xfffb), (0x13430, 0x1343f)]

def defaultIgnorable : Charset :=
  union (runs otherDefaultIgnorableCodePoint)
    (diff (union (runs format) (runs variationSelector))
      (unionAll [runs whiteSpace, runs visibleFormat, runs prependedConcatenationMark]))

/-- The derived properties with their names. -/
def derived : List (List String × Charset) :=
  [(["lowercase", "lower"], lowercase), (["uppercase", "upper"], uppercase), (["cased"], cased),
   (["alphabetic", "alpha"], alphabetic), (["math"], math),
   (["caseignorable", "ci"], caseIgnorable),
   (["changeswhencasemapped", "cwcm"], changesWhenCasemapped),
   (["graphemeextend", "grext"], graphemeExtend), (["graphemebase", "grbase"], graphemeBase),
   (["idstart", "ids"], idStart), (["idcontinue", "idc"], idContinue),
   (["xidstart", "xids"], xidStart), (["xidcontinue", "xidc"], xidContinue),
   (["defaultignorablecodepoint", "di"], defaultIgnorable)]

end LateBinding.Unicode.Property
