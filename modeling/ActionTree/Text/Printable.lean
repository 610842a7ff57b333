import ActionTree.Unicode.Derived

/-!
# ActionTree.Text.Printable

Which characters can be shown as they are.

1. controls, formats, private use and unassigned characters cannot be seen, and
   separators are not told from each other, the space excepted;
2. a character with the property `Grapheme_Extend` would merge with whatever stands
   before it.
-/

namespace ActionTree.Text

open Unicode

/-- Characters that cannot be seen or told from others. -/
def hidden : CharSet := (others.union separators).diff (.single ' ')

/-- Whether a character is shown as it is. -/
def isPrintable (c : Char) : Bool := !hidden.has c.toNat && !graphemeExtend.has c.toNat

end ActionTree.Text
