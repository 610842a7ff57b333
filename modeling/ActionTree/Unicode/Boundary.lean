import ActionTree.Unicode.Derived
import ActionTree.Unicode.Script

/-!
# ActionTree.Unicode.Boundary

What characters do to the boundaries of signs, words and sentences.

1. for each of the three kinds of boundary every character is in one class at most;
2. the classes have names, written as names are compared;
3. a class is given by its rule where Unicode gives one, and else by its list.
-/

namespace ActionTree.Unicode

/-- The set of a single number. -/
def just (n : Nat) : CharSet := .range n n

/-- The mark that joins what stands beside it. -/
def joiner : CharSet := just 0x200D

/-! ## Signs -/

/-- What goes with the sign in front. -/
def signExtend : CharSet := graphemeExtend.union emojiModifier

/-- What stands by itself and is not seen. -/
def signControl : CharSet :=
  (CharSet.unions [lineSeparators, paragraphSeparators, controls, formats,
    unassigned.inter defaultIgnorable]).diff
    (.unions [.ofText "A D 200C-200D", prependedConcatenationMark, signExtend])

/-- What goes with the sign behind. -/
def signPrepend : CharSet := prependedConcatenationMark.union
  (.ofText "D4E 111C2-111C3 113D1 1193F 11941 11A3A 11A84-11A89 11D46 11F02")

/-- The first parts of syllables. -/
def leadingJamo : CharSet := .ofText "1100-115F A960-A97C"

/-- The vowels of syllables. -/
def vowelJamo : CharSet := .ofText "1160-11A7 D7B0-D7C6 16D63 16D67-16D6A"

/-- The last parts of syllables. -/
def trailingJamo : CharSet := .ofText "11A8-11FF D7CB-D7FB"

/-- Syllables of two parts. -/
def openSyllables : CharSet := .ofText "AC00-D788/1C"

/-- Syllables of three parts. -/
def closedSyllables : CharSet := (CharSet.range 0xAC00 0xD7A3).diff openSyllables

/-- Marks with a place of their own that nevertheless go with the sign in front. -/
def signSpacing : CharSet :=
  (spacingMarks.union (.ofText "E33 EB3")).diff (.unions [signExtend, .ofTable
    ["102B-102C 1038 1062-1064 1067-106D 1083 1087-108C 108F 109A-109C 1A61 1A63-1A64 AA7B AA7D",
     "11720-11721 16D63 16D67-16D6A"]])

/-- The classes at the boundaries of signs. -/
def graphemeBreaks : List (List String × CharSet) :=
  [(["control", "cn"], signControl), (["cr"], .single '\r'), (["extend", "ex"], signExtend),
   (["l"], leadingJamo), (["lf"], .single '\n'), (["lv"], openSyllables),
   (["lvt"], closedSyllables), (["prepend", "pp"], signPrepend),
   (["regionalindicator", "ri"], regionalIndicator), (["spacingmark", "sm"], signSpacing),
   (["t"], trailingJamo), (["v"], vowelJamo), (["zwj"], joiner)]

/-! ## Words -/

/-- What goes with the character in front. -/
def wordExtend : CharSet := signExtend.union spacingMarks

/-- What steers the layout inside a word. -/
def wordFormat : CharSet :=
  formats.diff (.unions [.ofText "200B-200D", prependedConcatenationMark, wordExtend])

/-- The characters of the script `Katakana` and some signs that go with them. -/
def katakanaWord : CharSet :=
  (inScript "katakana").union (.ofText "3031-3035 309B-309C 30A0 30FC FF70")

/-- The letters of the script `Hebrew`. -/
def hebrewWord : CharSet := otherLetters.inter (inScript "hebrew")

/-- Letters of scripts that do not mark where words end. -/
def unmarkedWords : CharSet := .unions [ideographic, inScript "hiragana", .ofTable
    ["E01-E30 E32-E33 E40-E46 E81-E82 E84 E86-E8A E8C-EA3 EA5 EA7-EB0 EB2-EB3 EBD EC0-EC4 EC6",
     "EDC-EDF 1000-102A 103F 1050-1055 105A-105D 1061 1065-1066 106E-1070 1075-1081 108E",
     "1780-17B3 17D7 17DC 1950-196D 1970-1974 1980-19AB 19B0-19C9 1A20-1A54 1AA7 A9E0-A9E4",
     "A9E6-A9EF A9FA-A9FE AA60-AA76 AA7A AA7E-AAAF AAB1 AAB5-AAB6 AAB9-AABD AAC0 AAC2",
     "AADB-AADD 11700-1171A 11740-11746"]]

/-- Signs that count as letters. -/
def lettersBesides : CharSet := .ofTable
  ["2C2-2C5 2D2-2D7 2DE-2DF 2E5-2EB 2ED 2EF-2FF 55A-55C 55E 58A 5F3 70F A708-A716 A720-A721",
   "A789-A78A AB5B"]

/-- Letters of scripts that mark where words end. -/
def wordLetter : CharSet :=
  (alphabetic.union lettersBesides).diff
    (.unions [unmarkedWords, katakanaWord, hebrewWord, wordExtend])

/-- The sign of an abbreviation that counts as a letter. -/
def abbreviationMark : CharSet := just 0x70F

/-- Digits, and what is written around them. -/
def numeric : CharSet := .unions
  [decimalDigits, .ofText "66B", prependedConcatenationMark.diff abbreviationMark]

/-- The classes at the boundaries of words. -/
def wordBreaks : List (List String × CharSet) :=
  [(["aletter", "le"], wordLetter), (["cr"], .single '\r'), (["doublequote", "dq"], .single '"'),
   (["extend"], wordExtend), (["extendnumlet", "ex"], connectors.union (just 0x202F)),
   (["format", "fo"], wordFormat), (["hebrewletter", "hl"], hebrewWord),
   (["katakana", "ka"], katakanaWord.diff wordExtend), (["lf"], .single '\n'),
   (["midletter", "ml"], .ofText "3A B7 387 55F 5F4 2027 FE13 FE55 FF1A"),
   (["midnum", "mn"],
    .ofText "2C 3B 37E 589 60C-60D 66C 7F8 2044 FE10 FE14 FE50 FE54 FF0C FF1B"),
   (["midnumlet", "mb"], .ofText "2E 2018-2019 2024 FE52 FF07 FF0E"),
   (["newline", "nl"], .ofText "B-C 85 2028-2029"), (["numeric", "nu"], numeric),
   (["regionalindicator", "ri"], regionalIndicator), (["singlequote", "sq"], just 0x27),
   (["wsegspace"], spaceSeparators.diff (.ofText "A0 2007 202F")), (["zwj"], joiner)]

/-! ## Sentences -/

/-- What goes with the character in front. -/
def sentenceExtend : CharSet := .unions [graphemeExtend, spacingMarks, joiner]

/-- Small letters of scripts with two cases. -/
def sentenceLower : CharSet :=
  lowercase.diff (graphemeExtend.union (.ofText "10D0-10FA 10FD-10FF"))

/-- Capital letters of scripts that begin sentences with them. -/
def sentenceUpper : CharSet :=
  (uppercase.union titlecaseLetters).diff (.ofText "1C90-1CBA 1CBD-1CBF")

/-- Other letters. -/
def sentenceLetter : CharSet :=
  (CharSet.unions [alphabetic, just 0x5F3, abbreviationMark]).diff
    (.unions [sentenceLower, sentenceUpper, sentenceExtend])

/-- What steers the layout inside a sentence. -/
def sentenceFormat : CharSet :=
  formats.diff (.unions [.ofText "200C-200D", prependedConcatenationMark, sentenceExtend])

/-- Points that may end a sentence. -/
def sentencePoint : CharSet := .ofText "2E 2024 FE52 FF0E"

/-- Separators of lines and paragraphs. -/
def sentenceSeparator : CharSet := .ofText "85 2028-2029"

/-- Brackets and quotation marks. -/
def sentenceClose : CharSet := .unions [openings, closings, initialQuotes, finalQuotes,
  .ofText "22 27 275B-2760 2E00-2E01 2E06-2E08 2E0B 1F676-1F678"]

/-- The classes at the boundaries of sentences. -/
def sentenceBreaks : List (List String × CharSet) :=
  [(["aterm", "at"], sentencePoint), (["close", "cl"], sentenceClose), (["cr"], .single '\r'),
   (["extend", "ex"], sentenceExtend), (["format", "fo"], sentenceFormat),
   (["oletter", "le"], sentenceLetter), (["lf"], .single '\n'), (["lower", "lo"], sentenceLower),
   (["numeric", "nu"], numeric.union (just 0x66C)),
   (["scontinue", "sc"], .ofTable
    ["2C-2D 3A-3B 37E 55D 60C-60D 7F8 1802 1808 2013-2014 3001 FE10-FE11 FE13-FE14 FE31-FE32",
     "FE50-FE51 FE54-FE55 FE58 FE63 FF0C-FF0D FF1A-FF1B FF64"]),
   (["sep", "se"], sentenceSeparator),
   (["sp"], whiteSpace.diff (sentenceSeparator.union (.ofText "A D"))),
   (["sterm", "st"], sentenceTerminal.diff sentencePoint), (["upper", "up"], sentenceUpper)]

end ActionTree.Unicode
