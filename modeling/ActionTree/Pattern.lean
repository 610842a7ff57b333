import ActionTree.Pattern.Marks
import ActionTree.Pattern.Meaning
import ActionTree.Pattern.Nesting
import ActionTree.Pattern.Reader.Whole
import ActionTree.Pattern.Size

/-!
# ActionTree.Pattern

Regular expressions, as far as it matters whether they occur in a text.

1. `Pattern.read` gives the pattern in a text or the report of what is wrong: how it is
   written, how deep its parts stand inside one another, what its parts mean, and how
   much room it needs, in this order;
2. `Pattern.occursIn` says whether a pattern occurs anywhere in a text;
3. of two ways to match only the outcome counts, so greed makes no difference to it.
-/

namespace ActionTree

/-- A regular expression. -/
structure Pattern where
  form : Pattern.Form
deriving DecidableEq, Repr

namespace Pattern

/-- The form of a pattern, or what is wrong with it. -/
def formOf (source : String) : Except Fault Form := do
  let tree ← treeOf source
  match tree.tooDeep? greatestDepth with
  | some span => faultAt .tooDeep span
  | none => return (← tree.form {}).1

/-- The report of a pattern that needs too much room. -/
def noRoomMessage : String :=
  "Compiled regex exceeds size limit of " ++ toString roomLimit ++ " bytes."

/-- The pattern in a text. -/
def read (source : String) : Except String Pattern :=
  match formOf source with
  | .ok form => if form.hasRoom then .ok ⟨form⟩ else .error noRoomMessage
  | .error fault => .error (fault.message source)

/-- Whether a pattern occurs in a text. -/
def occursIn (p : Pattern) (text : String) : Bool := p.form.occursIn text.toList

end Pattern

end ActionTree
