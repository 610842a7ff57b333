import ActionTree.Value.Path

/-!
# ActionTree.Context

The scope that a program runs in.

1. *fields* are what instructions write under the names that programs choose;
2. the *form* is the current record: the request's parameters, then whatever a
   loop or a call binds there;
3. *index* is the position of the innermost loop, *base* the program that
   relative references start from, *depth* how many sub-programs are open.

A path that starts with `form.` addresses the form, `form` alone is the form as
a whole, and `index` is the position while a loop runs.  Every other path
addresses the fields.  Templates resolve a name in the form first and in the
fields next.
-/

namespace ActionTree

open Text

/-- A scope. -/
structure Context where
  fields : Record := []
  form : Record := []
  index : Option Nat := none
  base : Option String := none
  depth : Nat := 0
deriving Inhabited

/-- What a loop puts back when it ends: the form and the position. -/
structure Snapshot where
  form : Record
  index : Option Nat

namespace Context

/-- What the paths into the form begin with. -/
def formPrefix : String := "form."

/-- What stands behind the beginning of a path into the form. -/
def inForm? (path : String) : Option String := stripStart formPrefix path

/-- A scope whose form is the parameters of a request. -/
def ofParameters (parameters : Record) : Context := { form := parameters }

/-! ## Addressing -/

/-- The value at a path. -/
def get (c : Context) (path : String) : Option Value :=
  match inForm? path with
  | some rest => Record.lookup c.form rest
  | none =>
    if path = "form" then some (.record c.form)
    else
      match (if path = "index" then c.index else none) with
      | some i => some (.nat i)
      | none => Record.lookup c.fields path

/-- The scope with a value written at a path. -/
def set (c : Context) (path : String) (v : Value) : Context :=
  match inForm? path with
  | some rest => { c with form := Record.assign c.form rest v }
  | none =>
    if path = "form" then { c with form := (v.record?).getD [] }
    else { c with fields := Record.assign c.fields path v }

/-- The value at a path and the scope without it, if it is an entry of a
record. -/
def remove? (c : Context) (path : String) : Option (Value × Context) :=
  match inForm? path with
  | some rest => (Record.remove? c.form rest).map fun (v, r) => (v, { c with form := r })
  | none => (Record.remove? c.fields path).map fun (v, r) => (v, { c with fields := r })

/-- The value that can be changed in place at a path: the form as a whole and
the position of a loop are not among them. -/
def slot? (c : Context) (path : String) : Option Value :=
  match inForm? path with
  | some rest => Record.lookup c.form rest
  | none => Record.lookup c.fields path

/-- The scope with `f` applied to the value in a slot; `none` if there is no
such slot. -/
def update? (c : Context) (path : String) (f : Value → Value) : Option Context :=
  match inForm? path with
  | some rest => (Record.update? c.form rest f).map fun r => { c with form := r }
  | none => (Record.update? c.fields path f).map fun r => { c with fields := r }

/-- The value of a name in a template: the form comes before the fields. -/
def resolve (c : Context) (name : String) : Option Value :=
  if startsWith formPrefix name || name == "index" then c.get name
  else
    match Record.lookup c.form name with
    | some v => some v
    | none => Record.lookup c.fields name

/-! ## Loops -/

/-- The scope with an element bound in the form: under a field if one is named,
otherwise entry by entry if it is a record and under `value` if it is not. -/
def bind (c : Context) (element : Value) (field : Option String) : Context :=
  match field, element with
  | some f, _ => { c with form := Record.assign c.form f element }
  | none, .record es => { c with form := Record.merge c.form es }
  | none, _ => { c with form := Record.insert c.form "value" element }

/-- The form and the position. -/
def save (c : Context) : Snapshot := ⟨c.form, c.index⟩

/-- The scope with a form and a position put back. -/
def restore (c : Context) (s : Snapshot) : Context := { c with form := s.form, index := s.index }

/-! ## Calls -/

/-- The scope one call deeper; `none` if the limit is reached. -/
def enter? (c : Context) (limit : Nat) : Option Context :=
  if c.depth < limit then some { c with depth := c.depth + 1 } else none

/-- The scope one call less deep. -/
def leave (c : Context) : Context := { c with depth := c.depth - 1 }

/-- The scope of a call that sees nothing of its caller but the parameters. -/
def child (c : Context) (parameters : Record) (base : String) : Context :=
  { form := parameters, base := some base, depth := c.depth }

/-- The fields that are marked for export, the mark taken off. -/
def exports (c : Context) (marker : String) : Record :=
  c.fields.filterMap fun (name, v) =>
    match stripStart marker name with
    | some rest => if rest = "" then none else some (rest, v)
    | none => none

/-- The caller's scope with the exported fields of a call written into its
fields. -/
def importFields (c : Context) (exported : Record) : Context :=
  { c with fields := Record.merge c.fields exported }

end Context

end ActionTree
