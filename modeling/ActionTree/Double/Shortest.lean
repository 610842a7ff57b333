import ActionTree.Double
import ActionTree.Text.Numeral

/-!
# ActionTree.Double.Shortest

The shortest decimal text of a finite double.

1. a decimal number stands for a double if it rounds to it, that is, if it lies
   between the midpoints to the neighbouring doubles; a midpoint itself belongs
   to the even mantissa;
2. of the decimal numbers that stand for it the one with the fewest digits is
   written, of two the nearer, of two equally near the one with the even last
   digit;
3. the point is written in place when the first digit stands for a power of ten
   from `10 ^ (-5)` to `10 ^ 15`, and a whole number keeps `.0`; otherwise the
   power is written as `e` with a sign and at least one digit.

Only naturals are compared: the double, both midpoints and the candidate are
brought over one denominator.
-/

namespace ActionTree

open Text

/-- Digits and the power of ten that the last one counts. -/
structure Digits where
  digits : Nat
  exponent : Int
deriving DecidableEq, Repr

/-! ## The digits -/

/-- The power of ten that the first digit of a positive number counts. -/
def Finite.leadingPower (x : Finite) : Int :=
  if x.num < x.den then -((digitsOf ((x.den - 1) / x.num)).length : Int)
  else (digitsOf (x.num / x.den)).length - 1

/-- The multiples of `10 ^ k` next to the number that round to it, the nearer
one first. -/
def Finite.onGrid (x : Finite) (k : Int) : Option Nat :=
  let up := pow2 (x.exponent - 2).toNat * pow10 (-k).toNat
  let down := pow2 (2 - x.exponent).toNat * pow10 k.toNat
  let value := 4 * x.mantissa * up
  let low := (4 * x.mantissa -
    (if x.mantissa = pow2 52 && x.exponent > -1074 then 1 else 2)) * up
  let high := (4 * x.mantissa + 2) * up
  let even := x.mantissa % 2 == 0
  let stands (d : Nat) : Bool :=
    if even then low ≤ d * down && d * down ≤ high
    else low < d * down && d * down < high
  let below := value / down
  let above := below + 1
  match stands below, stands above with
  | false, false => none
  | true, false => some below
  | false, true => some above
  | true, true =>
    let toBelow := value - below * down
    let toAbove := above * down - value
    if toBelow < toAbove then some below
    else if toAbove < toBelow then some above
    else some (if below % 2 = 0 then below else above)

/-- Trailing zeros moved into the exponent. -/
def Digits.strip : Nat → Digits → Digits
  | 0, d => d
  | fuel + 1, d =>
    if d.digits ≠ 0 && d.digits % 10 == 0 then
      Digits.strip fuel ⟨d.digits / 10, d.exponent + 1⟩
    else d

/-- The fewest digits that stand for a positive number.  Seventeen always
suffice. -/
def Finite.shortest (x : Finite) : Digits :=
  let lead := x.leadingPower
  let found := (List.range 17).findSome? fun (n : Nat) =>
    (x.onGrid (lead - n)).map fun d => (⟨d, lead - n⟩ : Digits)
  (found.getD ⟨0, 0⟩).strip 20

/-! ## The text -/

/-- The least and the greatest power of ten whose first digit is written in
place. -/
def placed (power : Int) : Bool := -5 ≤ power && power ≤ 15

/-- A power of ten after `e`. -/
def powerChars (power : Int) : List Char :=
  'e' :: (if power < 0 then '-' else '+') :: digitsOf power.natAbs

/-- Digits with a point, in place or with a power. -/
def Digits.chars (d : Digits) : List Char :=
  let ds := digitsOf d.digits
  let power : Int := d.exponent + ds.length - 1
  if placed power then
    if 0 ≤ d.exponent then ds ++ List.replicate d.exponent.toNat '0' ++ ['.', '0']
    else if 0 ≤ power then ds.take (power + 1).toNat ++ '.' :: ds.drop (power + 1).toNat
    else '0' :: '.' :: List.replicate (-power - 1).toNat '0' ++ ds
  else
    match ds with
    | [c] => c :: powerChars power
    | c :: cs => c :: '.' :: cs ++ powerChars power
    | [] => []

/-- The text of a finite double. -/
def Finite.chars (x : Finite) : List Char :=
  let body := if x.isZero then ['0', '.', '0'] else x.shortest.chars
  if x.negative then '-' :: body else body

/-- `Finite.chars` as a string. -/
def Finite.text (x : Finite) : String := String.ofList x.chars

end ActionTree
