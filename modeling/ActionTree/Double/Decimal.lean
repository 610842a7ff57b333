import ActionTree.Double
import ActionTree.Text.Split
import ActionTree.Text.Numeral

/-!
# ActionTree.Double.Decimal

Reading a double from decimal text.

1. a sign may stand first;
2. then `inf`, `infinity` or `nan` in any case, or digits with at most one
   point and at least one digit on one side of it;
3. then, after digits only, an exponent: `e` or `E`, a sign or none, digits.

The value is the double nearest to the decimal number, ties to even, whatever
the number of digits.  Numbers far outside the range are settled by their
magnitude alone, so that no text makes the reader raise ten to a huge power.
-/

namespace ActionTree

open Text

/-- `digits · 10 ^ exponent` as it was written. -/
structure Decimal where
  digits : Nat
  exponent : Int
deriving DecidableEq, Repr

/-- The representable number nearest to a decimal number. -/
def Decimal.toWidth (w : Width) (negative : Bool) (d : Decimal) : Double :=
  if d.digits = 0 then .finite ⟨negative, 0, w.least⟩
  else
    let magnitude : Int := d.exponent + (digitsOf d.digits).length
    if magnitude > 400 then .infinite negative
    else if magnitude < -400 then .finite ⟨negative, 0, w.least⟩
    else w.round negative (d.digits * pow10 d.exponent.toNat) (pow10 (-d.exponent).toNat)

/-! ## The parts of the text -/

/-- The exponent part: nothing, or a mark, a sign or none, and digits. -/
def readExponent : List Char → Option Int
  | [] => some 0
  | c :: cs =>
    if c = 'e' || c = 'E' then readIntChars cs else none

/-- The digits before the point, the digits after it, and the exponent. -/
def readDecimal (cs : List Char) : Option Decimal :=
  let whole := cs.takeWhile Char.isDigit
  let rest := cs.dropWhile Char.isDigit
  let (fraction, rest) := match rest with
    | '.' :: r => (r.takeWhile Char.isDigit, r.dropWhile Char.isDigit)
    | r => ([], r)
  if whole.isEmpty && fraction.isEmpty then none
  else
    (readExponent rest).map fun e =>
      ⟨numberOf (whole ++ fraction), e - fraction.length⟩

/-- An unsigned number: a name of a value that is not finite, or a decimal
number. -/
def readUnsigned (w : Width) (negative : Bool) (cs : List Char) : Option Double :=
  let name := cs.map Char.toLower
  if name = ['n', 'a', 'n'] then some .undefined
  else if name = "inf".toList || name = "infinity".toList then some (.infinite negative)
  else (readDecimal cs).map (Decimal.toWidth w negative)

/-- A number of the given format, a leading sign allowed. -/
def readWidth (w : Width) : List Char → Option Double
  | '-' :: cs => readUnsigned w true cs
  | '+' :: cs => readUnsigned w false cs
  | cs => readUnsigned w false cs

/-- The double that a text writes, if it is a number throughout. -/
def Double.read? (s : String) : Option Double := readWidth .wide s.toList

end ActionTree
