import ActionTree.Text.Blank

/-!
# ActionTree.Node

The nodes that programs are trees of.

A node has a name, which says what instruction it is, attributes in the order
they were written, child nodes, and the text that stood between its tags.  No
text at all and empty text are different things: only the latter was written.
-/

namespace ActionTree

/-- A node of a program. -/
structure Node where
  name : String
  attributes : List (String × String) := []
  children : List Node := []
  text : Option String := none
deriving Repr, Inhabited

namespace Node

/-! ## Reading -/

/-- The value of the first attribute with a key. -/
def attr? (n : Node) (key : String) : Option String :=
  (n.attributes.find? fun (k, _) => k == key).map Prod.snd

/-- Whether an attribute is present at all. -/
def hasAttr (n : Node) (key : String) : Bool := (n.attr? key).isSome

/-- The text without the blanks around it, unless nothing is left. -/
def trimmedText? (n : Node) : Option String := n.text.bind Text.trimmed?

/-- The trimmed value of an attribute, unless nothing is left. -/
def name? (n : Node) (key : String) : Option String := (n.attr? key).bind Text.trimmed?

/-! ## Building -/

/-- The attributes with a value under a key: in place of the first one with
that key, or at the end. -/
def setAttr : List (String × String) → String → String → List (String × String)
  | [], key, value => [(key, value)]
  | (k, v) :: as, key, value =>
    if k = key then (k, value) :: as else (k, v) :: setAttr as key value

/-- The node with an attribute written. -/
def withAttr (n : Node) (key value : String) : Node :=
  { n with attributes := setAttr n.attributes key value }

/-- The node with a child added behind the others. -/
def withChild (n : Node) (child : Node) : Node := { n with children := n.children ++ [child] }

/-- The node with its text replaced. -/
def withText (n : Node) (text : String) : Node := { n with text := some text }

end Node

end ActionTree
