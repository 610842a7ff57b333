import ActionTree.Unicode.CharSet

/-!
# ActionTree.Pattern.ByteRanges

The bytes of the characters of a set.

1. a range of characters is cut into pieces, so that the encodings of a piece are all
   rows of bytes with each byte in a range of its own;
2. the pieces come in ascending order, and there are as few of them as possible.
-/

namespace ActionTree.Pattern

/-- A range of bytes, ends included. -/
abbrev ByteRange := UInt8 × UInt8

/-- Where the first piece of a range ends if the numbers of a block, which differ in
their last bits only, are to stay together or be cut off. -/
def cutBlocks? (lo hi : Nat) : (blocks : List Nat) → Option Nat
  | [] => none
  | size :: rest =>
    if lo / size = hi / size then cutBlocks? lo hi rest
    else if lo % size ≠ 0 then some (lo / size * size + size - 1)
    else if hi % size ≠ size - 1 then some (hi / size * size - 1)
    else cutBlocks? lo hi rest

/-- The greatest numbers whose encodings have one, two and three bytes. -/
def lengthBounds : List Nat := [0x7F, 0x7FF, 0xFFFF]

/-- Where the first piece of a range ends, if the range is no piece. -/
def cut? (lo hi : Nat) : Option Nat :=
  match lengthBounds.find? fun n => lo ≤ n && n < hi with
  | some n => some n
  | none => if hi < 0x80 then none else cutBlocks? lo hi [0x40, 0x1000, 0x40000]

/-- The pieces of a range. -/
def piecesOfRange (lo hi : Nat) : List (Nat × Nat) :=
  match cut? lo hi with
  | none => [(lo, hi)]
  | some n =>
    if lo ≤ n ∧ n < hi then piecesOfRange lo n ++ piecesOfRange (n + 1) hi else [(lo, hi)]
termination_by hi - lo

/-- A range without the halves of surrogate pairs. -/
def withoutSurrogates (r : Nat × Nat) : List (Nat × Nat) :=
  [(r.1, min r.2 0xD7FF), (max r.1 0xE000, r.2)].filter fun r => r.1 ≤ r.2

/-- The bytes of a character. -/
def bytesOfChar (n : Nat) : List UInt8 := String.utf8EncodeChar (Char.ofNat n)

/-- The rows of byte ranges that encode the characters of a set. -/
def byteRows (s : CharSet) : List (List ByteRange) :=
  ((s.ranges.flatMap withoutSurrogates).flatMap fun r => piecesOfRange r.1 r.2).map fun r =>
    (bytesOfChar r.1).zip (bytesOfChar r.2)

end ActionTree.Pattern
