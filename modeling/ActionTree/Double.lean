import ActionTree.Word

/-!
# ActionTree.Double

Double-precision numbers, exactly.

1. a finite double is `± mantissa · 2 ^ exponent`; nothing about it is
   approximate, so comparing, truncating and printing are integer arithmetic;
2. the only inexact step is `Width.round`, which takes a ratio of naturals to
   the nearest representable number, ties to the even mantissa;
3. every finite double is a whole multiple of `2 ^ (-1074)`, and `Finite.units`
   is that multiple: the order of doubles is the order of their units.

The narrow format is needed once, to tell which quality values are zero; both
formats share `Width.round`.
-/

namespace ActionTree

/-! ## Types -/

/-- A finite double: `± mantissa · 2 ^ exponent`.  The mantissa has 53 bits,
fewer only at the least exponent. -/
structure Finite where
  negative : Bool
  mantissa : Nat
  exponent : Int
deriving DecidableEq, Repr

/-- A double-precision number, infinities and the undefined value included. -/
inductive Double where
  | undefined
  | infinite (negative : Bool)
  | finite (x : Finite)
deriving DecidableEq, Repr

/-- A binary format: how many bits a mantissa has, and the least and greatest
exponent it may be scaled by. -/
structure Width where
  bits : Nat
  least : Int
  greatest : Int

/-- Double precision. -/
def Width.wide : Width := ⟨53, -1074, 971⟩

/-- Single precision. -/
def Width.narrow : Width := ⟨24, -149, 104⟩

/-! ## Rounding -/

/-- The integer nearest to `n / d`; halves go to the even neighbour. -/
def nearest (n d : Nat) : Nat :=
  let q := n / d
  let r := n % d
  if 2 * r < d then q
  else if 2 * r > d then q + 1
  else q + q % 2

/-- The exponent at which `num / den` has a mantissa of the format's length,
or the least exponent if that is larger. -/
def Width.scale (w : Width) (num den : Nat) : Int :=
  let guess : Int := (Nat.log2 num : Int) - (Nat.log2 den : Int) - w.bits
  let whole := (num * pow2 (-guess).toNat) / (den * pow2 guess.toNat)
  max w.least (if whole < pow2 w.bits then guess else guess + 1)

/-- The representable number nearest to `num / den`, ties to the even
mantissa.  What is too large becomes infinite. -/
def Width.round (w : Width) (negative : Bool) (num den : Nat) : Double :=
  if num = 0 then .finite ⟨negative, 0, w.least⟩
  else
    let e := w.scale num den
    let m := nearest (num * pow2 (-e).toNat) (den * pow2 e.toNat)
    let (m, e) := if m = pow2 w.bits then (m / 2, e + 1) else (m, e)
    if e > w.greatest then .infinite negative else .finite ⟨negative, m, e⟩

namespace Double

/-- The double nearest to a ratio. -/
def ofRatio (negative : Bool) (num den : Nat) : Double := Width.wide.round negative num den

/-- The double nearest to an integer. -/
def ofInt (n : Int) : Double := ofRatio (n < 0) n.natAbs 1

end Double

namespace Finite

/-- Zero, of either sign. -/
def zero (negative : Bool) : Finite := ⟨negative, 0, -1074⟩

/-- Whether the number is zero, of either sign. -/
def isZero (x : Finite) : Bool := x.mantissa == 0

/-- Numerator of the absolute value over `den`. -/
def num (x : Finite) : Nat := x.mantissa * pow2 x.exponent.toNat

/-- Denominator of the absolute value under `num`, a power of two. -/
def den (x : Finite) : Nat := pow2 (-x.exponent).toNat

/-- How many times `2 ^ (-1074)` the number is. -/
def units (x : Finite) : Int :=
  let n : Int := (x.mantissa * pow2 (x.exponent + 1074).toNat : Nat)
  if x.negative then -n else n

/-- Whether the number is whole. -/
def isWhole (x : Finite) : Bool := x.num % x.den == 0

/-- The number without its fraction, the sign kept. -/
def truncate (x : Finite) : Int :=
  let n : Int := (x.num / x.den : Nat)
  if x.negative then -n else n

/-- The double nearest to the product of two finite ones. -/
def times (x y : Finite) : Double :=
  Double.ofRatio (x.negative != y.negative) (x.num * y.num) (x.den * y.den)

/-- The double nearest to the quotient of two finite ones; the divisor is not
zero. -/
def quotient (x y : Finite) : Double :=
  Double.ofRatio (x.negative != y.negative) (x.num * y.den) (x.den * y.num)

end Finite

/-! ## Order -/

/-- How two integers compare. -/
def orderInt (a b : Int) : Ordering := if a < b then .lt else if a = b then .eq else .gt

namespace Double

/-- How two doubles compare; the undefined value compares with nothing, and
the two zeros are equal. -/
def compare? : Double → Double → Option Ordering
  | undefined, _ | _, undefined => none
  | infinite a, infinite b => some (if a = b then .eq else if a then .lt else .gt)
  | infinite a, finite _ => some (if a then .lt else .gt)
  | finite _, infinite b => some (if b then .gt else .lt)
  | finite x, finite y => some (orderInt x.units y.units)

/-- Whether a number is at most zero. -/
def isAtMostZero (d : Double) : Bool :=
  match d with
  | undefined => false
  | infinite s => s
  | finite x => x.negative || x.isZero

/-- The nearest whole number toward zero, held within the signed 64-bit range;
`none` for what is not finite. -/
def toInt64? : Double → Option Int
  | finite x => some (max leastInt64 (min greatestInt64 x.truncate))
  | _ => none

end Double

end ActionTree
