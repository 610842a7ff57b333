import ActionTree.Unicode.Category
import ActionTree.Unicode.Property

/-!
# ActionTree.Unicode.Derived

The properties of characters that follow from categories and lists.

1. `alphabetic`, `lowercase`, `uppercase` and `cased` sort the letters and what is
   like a letter;
2. `idStart` and `idContinue` say what identifiers are made of, and `xidStart` and
   `xidContinue` the same for identifiers that are compared in a normal form;
3. `graphemeBase` and `graphemeExtend` say what a sign on paper is made of;
4. `word` holds the characters of words.
-/

namespace ActionTree.Unicode

/-! ## Letters -/

/-- Small letters and what is like them. -/
def lowercase : CharSet := lowercaseLetters.union otherLowercase

/-- Capital letters and what is like them. -/
def uppercase : CharSet := uppercaseLetters.union otherUppercase

/-- What is small, capital or both. -/
def cased : CharSet := .unions [lowercase, uppercase, titlecaseLetters]

/-- Letters, numerals made of letters, and what is like them. -/
def alphabetic : CharSet := .unions [letters, letterNumbers, otherAlphabetic]

/-- Punctuation that stands inside words: apostrophes, points and the like. -/
def insideWords : CharSet := .ofText
  "27 2E 3A B7 387 55F 5F4 2018-2019 2024 2027 FE13 FE52 FE55 FF07 FF0E FF1A"

/-- What does not count when the case of a text is judged. -/
def caseIgnorable : CharSet := .unions
  [nonspacingMarks, enclosingMarks, formats, modifierLetters, modifierSymbols, insideWords]

/-- What belongs to mathematics. -/
def math : CharSet := mathSymbols.union otherMath

/-! ## Identifiers -/

/-- What has a meaning of its own in patterns. -/
def patternReserved : CharSet := patternSyntax.union patternWhiteSpace

/-- What begins an identifier. -/
def idStart : CharSet :=
  (CharSet.unions [letters, letterNumbers, otherIdStart]).diff patternReserved

/-- What goes on an identifier. -/
def idContinue : CharSet :=
  (CharSet.unions
    [idStart, nonspacingMarks, spacingMarks, decimalDigits, connectors, otherIdContinue]).diff
    patternReserved

/-- What no longer goes on an identifier in its normal form. -/
def unstable : CharSet := .ofTable
  ["37A 309B-309C FC5E-FC63 FDFA-FDFB FE70-FE7E/2"]

/-- What no longer begins an identifier in its normal form. -/
def unstableStart : CharSet := unstable.union (.ofText "E33 EB3 FF9E-FF9F")

/-- What begins an identifier, in its normal form too. -/
def xidStart : CharSet := idStart.diff unstableStart

/-- What goes on an identifier, in its normal form too. -/
def xidContinue : CharSet := idContinue.diff unstable

/-! ## Signs -/

/-- What is invisible by default. -/
def defaultIgnorable : CharSet :=
  (CharSet.unions [otherDefaultIgnorable, formats, variationSelector]).diff
    (.unions [whiteSpace, .ofText "FFF9-FFFB 13430-13440", prependedConcatenationMark])

/-- What goes with the character in front. -/
def graphemeExtend : CharSet := .unions [enclosingMarks, nonspacingMarks, otherGraphemeExtend]

/-- What begins a sign on paper. -/
def graphemeBase : CharSet :=
  (CharSet.unions [others, lineSeparators, paragraphSeparators, graphemeExtend]).other

/-- What has a character at all. -/
def assigned : CharSet := unassigned.other

/-! ## Words -/

/-- The characters of words: letters and what is like them, marks, digits, connecting
punctuation, and what joins letters. -/
def word : CharSet := .unions [alphabetic, marks, decimalDigits, connectors, joinControl]

end ActionTree.Unicode
