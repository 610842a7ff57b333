import ActionTree.Expr.Meaning
import ActionTree.Machine.Run
import ActionTree.Value.Truth

/-!
# ActionTree.Machine.Attribute

What the attributes and the text of a node mean in a scope.

1. references are expanded wherever a value is meant, and never in a condition or
   in the name of a field: what a field holds can neither become part of a
   condition nor name another field;
2. an attribute that is missing and one that cannot be used are errors of the node
   that lacks it;
3. an integer may be written as any number, and is then cut off towards zero and
   held to 64 bits.

None of this changes anything: every question is answered from the scope alone.
-/

namespace ActionTree

open Text

/-! ## What needs no host -/

namespace Node

/-- The error of an attribute. -/
def badAttribute (n : Node) (key detail : String) : Error := .badAttribute n.name key detail

/-- An attribute that names a field. -/
def field (n : Node) (key : String) : Except Error String :=
  match n.name? key with
  | some name => .ok name
  | none => .error (n.badAttribute key "is required")

/-- Whether a condition holds; one that is not there does. -/
def condition (n : Node) (key : String) (c : Context) : Except Error Bool :=
  match n.attr? key with
  | none => .ok true
  | some source =>
    match Expr.holds source c with
    | .ok b => .ok b
    | .error fault => .error (.condition source fault)

end Node

/-! ## What needs templates -/

namespace Host

/-- A text with its references expanded. -/
def expand (h : Host) (text : String) (c : Context) : Except Error String :=
  match h.services.templates text c with
  | .ok s => .ok s
  | .error e => .error (.service e)

/-- The expanded text, if there is one. -/
def expand? (h : Host) (text : Option String) (c : Context) : Except Error (Option String) :=
  match text with
  | none => .ok none
  | some t => (h.expand t c).map some

/-- The expanded value of an attribute. -/
def attr? (h : Host) (n : Node) (key : String) (c : Context) : Except Error (Option String) :=
  h.expand? (n.attr? key) c

/-- The expanded value of an attribute that must be there. -/
def attr (h : Host) (n : Node) (key : String) (c : Context) : Except Error String :=
  match h.attr? n key c with
  | .ok (some s) => .ok s
  | .ok none => .error (n.badAttribute key "is required")
  | .error e => .error e

/-- The expanded text of a node, without the blanks around it. -/
def text? (h : Host) (n : Node) (c : Context) : Except Error (Option String) :=
  h.expand? n.trimmedText? c

/-- An attribute, or the text of the node if it has no such attribute. -/
def attrOrText? (h : Host) (n : Node) (key : String) (c : Context) :
    Except Error (Option String) :=
  match h.attr? n key c with
  | .ok (some s) => .ok (some s)
  | .ok none => h.text? n c
  | .error e => .error e

/-- An attribute, or the text of the node; one of them must be there. -/
def attrOrText (h : Host) (n : Node) (key : String) (c : Context) : Except Error String :=
  match h.attrOrText? n key c with
  | .ok (some s) => .ok s
  | .ok none => .error (n.badAttribute key "is required")
  | .error e => .error e

/-- A flag with the value that it has when it is not there. -/
def flagOr (h : Host) (n : Node) (key : String) (absent : Bool) (c : Context) :
    Except Error Bool :=
  (h.attr? n key c).map fun s =>
    match s with
    | some s => Text.truthy s
    | none => absent

/-- A flag; one that is not there is not set. -/
def flag (h : Host) (n : Node) (key : String) (c : Context) : Except Error Bool :=
  h.flagOr n key false c

end Host

/-! ## Integers -/

/-- The integer of a trimmed text. -/
def integerOfText (s : String) : Option Int :=
  match readIntChars s.toList with
  | some n => if fitsInt64 n then some n else (Double.read? s).bind Double.toInt64?
  | none => (Double.read? s).bind Double.toInt64?

/-- The integer in an attribute. -/
def Host.integer? (h : Host) (n : Node) (key : String) (c : Context) :
    Except Error (Option Int) :=
  match h.attr? n key c with
  | .error e => .error e
  | .ok none => .ok none
  | .ok (some s) =>
    match integerOfText (trim s) with
    | some i => .ok (some i)
    | none => .error (n.badAttribute key ("'" ++ trim s ++ "' is not a number"))

end ActionTree
