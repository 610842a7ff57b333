import ActionTree.Expr.Reader
import ActionTree.Expr.Compare

/-!
# ActionTree.Expr.Meaning

What a condition means in a scope.

1. a lone reference is the field's value, an unknown one the empty text;
2. `and`, `or`, `not` and the comparisons give booleans; an operand alone gives its
   value unchanged;
3. a condition of nothing but blanks is false.

References are looked up while the condition is cut into tokens, and operators
are carried out while the tokens are read.
-/

namespace ActionTree.Expr

open Text

/-- The text of a field in a scope; an unknown one has none. -/
def fieldText (c : Context) (name : List Char) : List Char :=
  match c.resolve (String.ofList name) with
  | some v => v.toText.toList
  | none => []

/-- A text with the fields' texts spliced in for references.  A reference ends at
the first closing brace behind its opening one. -/
def interpolate (c : Context) (cs : List Char) : List Char :=
  match cs with
  | [] => []
  | d :: rest =>
    if d = '{' then
      match _h : cutChars '}' rest with
      | some (name, after) =>
        if isName name then fieldText c name ++ interpolate c after
        else d :: interpolate c rest
      | none => d :: interpolate c rest
    else d :: interpolate c rest
termination_by cs.length
decreasing_by
  all_goals simp_wf
  have := cutChars_length ‹cutChars '}' rest = some (name, after)›
  omega

/-- Conditions read as values in a scope. -/
def inScope (c : Context) : Reading Value where
  constant v := v
  reference name := (c.resolve name).getD (.text "")
  splice cs := .text (String.ofList (interpolate c cs))
  not v := .boolean !v.truthy
  and v w := .boolean (v.truthy && w.truthy)
  or v w := .boolean (v.truthy || w.truthy)
  compare op v w := .boolean (compareValues op v w)

/-- The value of a condition in a scope. -/
def value (source : String) (c : Context) : Except Fault Value :=
  ((inScope c).read source).map fun v? => v?.getD (.boolean false)

/-- Whether a condition holds in a scope. -/
def holds (source : String) (c : Context) : Except Fault Bool :=
  (value source c).map Value.truthy

end ActionTree.Expr
