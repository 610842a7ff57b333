import ActionTree.Expr.Token
import ActionTree.Value.Truth

/-!
# ActionTree.Expr.Compare

How two values compare.

1. if both are numbers, or texts that read as numbers, they compare as doubles;
   a blank text is no number here;
2. otherwise their texts compare, code point by code point;
3. the undefined number compares with nothing, so of all comparisons only `ne`
   holds of it.
-/

namespace ActionTree.Expr

open Text

/-- A text of nothing but blanks. -/
def isBlankValue : Value → Bool
  | .text s => isBlankText s
  | _ => false

/-- How two lists of characters compare, the first difference deciding. -/
def orderChars : List Char → List Char → Ordering
  | [], [] => .eq
  | [], _ :: _ => .lt
  | _ :: _, [] => .gt
  | c :: cs, d :: ds =>
    if c.toNat < d.toNat then .lt else if d.toNat < c.toNat then .gt else orderChars cs ds

/-- How two values compare, if they do. -/
def order? (a b : Value) : Option Ordering :=
  match a.toNumber?, b.toNumber? with
  | some x, some y =>
    if isBlankValue a || isBlankValue b then
      some (orderChars a.toText.toList b.toText.toList)
    else Double.compare? x y
  | _, _ => some (orderChars a.toText.toList b.toText.toList)

/-- Whether a comparison holds of an order. -/
def Comparison.holds : Comparison → Option Ordering → Bool
  | eq, some o => o == .eq
  | ne, some o => o != .eq
  | lt, some o => o == .lt
  | le, some o => o != .gt
  | gt, some o => o == .gt
  | ge, some o => o != .lt
  | ne, none => true
  | _, none => false

/-- Whether a comparison holds of two values. -/
def compareValues (op : Comparison) (a b : Value) : Bool := op.holds (order? a b)

end ActionTree.Expr
