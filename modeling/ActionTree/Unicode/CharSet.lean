/-!
# ActionTree.Unicode.CharSet

Sets of characters.

1. a set is a list of ranges of character numbers, ends included, in ascending
   order and with a gap between any two of them, so equal sets are equal lists;
2. `union` and `other` are made by going along the ranges once, and all other
   operations are made of these two;
3. tables of characters are written as texts: `41-5A` is a range, `41` a single
   character, and `100-12E/2` takes every second number of a range.

The halves of surrogate pairs are no characters.  A range may run across them, but
what is outside a set never includes them.
-/

namespace ActionTree

/-- A set of characters. -/
structure CharSet where
  ranges : List (Nat × Nat)
deriving DecidableEq, Repr

namespace CharSet

/-! ## Members -/

/-- Whether ascending ranges hold a number. -/
def hasIn (n : Nat) : List (Nat × Nat) → Bool
  | [] => false
  | (lo, hi) :: rest => if n < lo then false else n ≤ hi || hasIn n rest

/-- Whether a set has the character of a number. -/
def has (s : CharSet) (n : Nat) : Bool := hasIn n s.ranges

/-- The set of nothing. -/
def nothing : CharSet := ⟨[]⟩

/-- The set of the characters from one number to another. -/
def range (lo hi : Nat) : CharSet := ⟨[(lo, hi)]⟩

/-- The set of one character. -/
def single (c : Char) : CharSet := range c.toNat c.toNat

/-- Whether a set has nothing. -/
def isEmpty (s : CharSet) : Bool := s.ranges.isEmpty

/-- The only character of a set that has just one. -/
def only? (s : CharSet) : Option Char :=
  match s.ranges with
  | [(lo, hi)] => if lo = hi then some (Char.ofNat lo) else none
  | _ => none

/-- Whether a set has nothing outside ASCII. -/
def isAscii (s : CharSet) : Bool := s.ranges.all fun r => r.2 < 128

/-! ## Joining and turning round -/

/-- A range and the ranges behind it, joined where they meet. -/
def joinFrom (lo hi : Nat) : List (Nat × Nat) → List (Nat × Nat)
  | [] => [(lo, hi)]
  | (a, b) :: rest =>
    if a ≤ hi + 1 then joinFrom lo (max hi b) rest else (lo, hi) :: joinFrom a b rest

/-- Ranges in the order of their starts, joined where they meet. -/
def join : List (Nat × Nat) → List (Nat × Nat)
  | [] => []
  | (a, b) :: rest => joinFrom a b rest

/-- The set of ranges in any order. -/
def ofRanges (rs : List (Nat × Nat)) : CharSet :=
  ⟨join (rs.mergeSort fun r r' => r.1 ≤ r'.1)⟩

/-- What is in either set. -/
def union (s t : CharSet) : CharSet :=
  ⟨join (s.ranges.merge t.ranges fun r r' => r.1 ≤ r'.1)⟩

/-- The greatest number of a character. -/
def greatest : Nat := 0x10FFFF

/-- The gaps between ascending ranges, from a number on. -/
def gapsFrom (n : Nat) : List (Nat × Nat) → List (Nat × Nat)
  | [] => if n ≤ greatest then [(n, greatest)] else []
  | (lo, hi) :: rest =>
    if n < lo then (n, lo - 1) :: gapsFrom (hi + 1) rest else gapsFrom (hi + 1) rest

/-- The halves of surrogate pairs. -/
def surrogates : CharSet := range 0xD800 0xDFFF

/-- The characters that are not in a set. -/
def other (s : CharSet) : CharSet := ⟨gapsFrom 0 (s.union surrogates).ranges⟩

/-! ## What is made of these -/

/-- All characters. -/
def all : CharSet := other nothing

/-- What is in one of some sets. -/
def unions (ss : List CharSet) : CharSet := ss.foldl union nothing

/-- What is in both sets. -/
def inter (s t : CharSet) : CharSet := (s.other.union t.other).other

/-- What is in the first set and not in the second. -/
def diff (s t : CharSet) : CharSet := (s.other.union t).other

/-- What is in just one of two sets. -/
def symmDiff (s t : CharSet) : CharSet := (s.diff t).union (t.diff s)

/-- A set or the other characters. -/
def otherIf (negated : Bool) (s : CharSet) : CharSet := if negated then s.other else s

/-! ## Tables -/

/-- Every so many numbers from one to another. -/
def stepped (lo hi step : Nat) : List (Nat × Nat) :=
  (List.range ((hi - lo) / step + 1)).map fun k => (lo + k * step, lo + k * step)

/-- An entry of a table: its numbers, the last one first. -/
abbrev Entry := List Nat

/-- The ranges of an entry. -/
def rangesOf : Entry → List (Nat × Nat)
  | [n] => [(n, n)]
  | [hi, lo] => [(lo, hi)]
  | [step, hi, lo] => stepped lo hi step
  | _ => []

/-- The value of a hexadecimal digit in capital letters. -/
def digitValue (c : Char) : Nat :=
  if c.isDigit then c.toNat - '0'.toNat else c.toNat - 'A'.toNat + 10

/-- The ranges that a text lists. -/
def rangesOfText : (number : Nat) → Entry → List Char → List (Nat × Nat)
  | n, e, [] => rangesOf (n :: e)
  | n, e, ' ' :: cs => rangesOf (n :: e) ++ rangesOfText 0 [] cs
  | n, e, '-' :: cs | n, e, '/' :: cs => rangesOfText 0 (n :: e) cs
  | n, e, c :: cs => rangesOfText (n * 16 + digitValue c) e cs

/-- The set that a text lists, in any order. -/
def ofText (text : String) : CharSet := ofRanges (rangesOfText 0 [] text.toList)

/-- The set that the lines of a table list. -/
def ofTable (lines : List String) : CharSet :=
  ofRanges (lines.flatMap fun line => rangesOfText 0 [] line.toList)

end CharSet

end ActionTree
