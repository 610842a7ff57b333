/-!
# ActionTree.Word

Powers, and the numbers that fit machine words.

1. `pow2` and `pow10` are powers of naturals;
2. a word of so many bits holds the naturals below that power of two;
3. 64 bits with a sign hold the integers from `leastInt64` to `greatestInt64`.
-/

namespace ActionTree

/-- A power of two. -/
abbrev pow2 (n : Nat) : Nat := Nat.pow 2 n

/-- A power of ten. -/
abbrev pow10 (n : Nat) : Nat := Nat.pow 10 n

/-- Whether a natural number fits so many bits. -/
def fitsBits (bits n : Nat) : Bool := n < pow2 bits

/-- The least integer of 64 bits with a sign. -/
def leastInt64 : Int := -9223372036854775808

/-- The greatest integer of 64 bits with a sign. -/
def greatestInt64 : Int := 9223372036854775807

/-- Whether an integer fits 64 bits with a sign. -/
def fitsInt64 (n : Int) : Bool := leastInt64 ≤ n && n ≤ greatestInt64

end ActionTree
