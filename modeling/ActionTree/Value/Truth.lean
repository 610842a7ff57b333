import ActionTree.Value
import ActionTree.Double.Decimal
import ActionTree.Json.Printer
import ActionTree.Text.Blank
import ActionTree.Text.Split

/-!
# ActionTree.Value.Truth

The loose views of a value that programs rely on.

1. `toText` is what a reference expands to: a text stands for itself, null for
   nothing, a list or a record for its compact JSON;
2. `truthy` is how a condition reads a value, `Text.truthy` how a switch or a
   flag reads a text;
3. `toNumber?` is the number a comparison sees in a value, numeric texts and
   booleans included.
-/

namespace ActionTree

open Text

/-- How a flag reads a text: blank, `0`, `false`, `no` and `off` are false, in
any case and with blanks around. -/
def Text.truthy (s : String) : Bool :=
  let t := trim s
  !(t == "" || t == "0" || sameIgnoringCase t "false" || sameIgnoringCase t "no" ||
    sameIgnoringCase t "off")

namespace Value

/-- The text of a value. -/
def toText : Value → String
  | null => ""
  | text s => s
  | boolean true => "true"
  | boolean false => "false"
  | number n => n.text
  | v => Json.compact v

/-- How a condition reads a value: null, false, zero, a false text and an empty
container are false. -/
def truthy : Value → Bool
  | null => false
  | boolean b => b
  | number (.integer n) => n ≠ 0
  | number (.real x) => !x.isZero
  | text s => Text.truthy s
  | list vs => !vs.isEmpty
  | record es => !es.isEmpty

/-- The number in a value, if there is one. -/
def toNumber? : Value → Option Double
  | number n => some n.toDouble
  | text s => Double.read? (trim s)
  | boolean b => some (Double.ofInt (if b then 1 else 0))
  | _ => none

end Value

end ActionTree
