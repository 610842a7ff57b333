import ActionTree.Json.Reader
import ActionTree.Machine.Attribute

/-!
# ActionTree.Machine.Data

Instructions that read and write fields.

1. the field is named by `ref`, unexpanded; `scope="form"` puts it into the form;
2. what is written is a literal, which is the attribute `value` or the text of the
   node, and is read as JSON if the node says so;
3. the answer of the database is written the same way: its first value, its first
   row, or all its rows.

Whatever can be wrong with a node is found before the scope is changed.
-/

namespace ActionTree

open Run

/-! ## Fields and literals -/

/-- The path that a node writes to. -/
def Host.target (h : Host) (n : Node) (c : Context) : Except Error String :=
  match n.field "ref" with
  | .error e => .error e
  | .ok field =>
    match h.attr? n "scope" c with
    | .error e => .error e
    | .ok wish =>
      if wish.any (fun s => Text.trim s == "form") && !Text.startsWith Context.formPrefix field
      then .ok (Context.formPrefix ++ field)
      else .ok field

/-- The literal of a text. -/
def literalOf (json : Bool) (s : String) : Except Error Value :=
  if json then
    match Json.read s.toList with
    | .ok v => .ok v
    | .error fault => .error (.literal s fault)
  else .ok (.text s)

/-- The literal that a node carries, if it carries any. -/
def Host.literal? (h : Host) (n : Node) (c : Context) : Except Error (Option Value) :=
  match h.attrOrText? n "value" c with
  | .error e => .error e
  | .ok none => .ok none
  | .ok (some s) =>
    match h.flag n "json" c with
    | .error e => .error e
    | .ok json => (literalOf json s).map some

namespace Run

/-! ## Writing -/

/-- Writes a literal; a node without one writes an empty text. -/
def assign (h : Host) (n : Node) : Run Flow := do
  let path ← ask (h.target n)
  let v ← ask (h.literal? n)
  updateScope fun c => c.set path (v.getD (.text ""))
  return .next

/-- Removes a field. -/
def unset (h : Host) (n : Node) : Run Flow := do
  let path ← ask (h.target n)
  updateScope fun c =>
    match c.remove? path with
    | some (_, c) => c
    | none => c
  return .next

end Run

/-- A value with another appended: what is not a list becomes the first item of
one, unless it is null. -/
def Value.append (old new : Value) : Value :=
  match old with
  | list items => list (items ++ [new])
  | null => list [new]
  | v => list [v, new]

/-- The scope with a value appended at a path. -/
def Context.push (c : Context) (path : String) (v : Value) : Context :=
  match c.update? path fun old => old.append v with
  | some c => c
  | none => c.set path (.list [v])

namespace Run

/-- Appends a literal; a node without one appends null. -/
def push (h : Host) (n : Node) : Run Flow := do
  let path ← ask (h.target n)
  let v ← ask (h.literal? n)
  updateScope fun c => c.push path (v.getD .null)
  return .next

/-- Writes the record of the current user. -/
def user (h : Host) (n : Node) : Run Flow := do
  let path ← ask (h.target n)
  let v := match h.services.privileges.user with
    | some r => Value.record r
    | none => .null
  updateScope fun c => c.set path v
  return .next

/-! ## The database -/

/-- Asks the database, and keeps record of what it carried out. -/
def consult {α : Type} (h : Host) (question : Database → Answer α) : Run α :=
  match h.services.database with
  | none => fail (.service (.database "no database configured"))
  | some db => do
    let answer := question db
    match answer.statement with
    | some statement => record (.queried statement)
    | none => pure ()
    ofExcept (answer.result.mapError Error.service)

/-- Writes what is made of the rows of a statement. -/
def writeRows (h : Host) (n : Node) (view : List Record → Value) : Run Flow := do
  let statement ← ask (h.attrOrText n "sql")
  let path ← ask (h.target n)
  let rows ← consult h fun db => db.rows statement
  updateScope fun c => c.set path (view rows)
  return .next

end Run

/-- The first value of the first row; null if there is none. -/
def firstValue : List Record → Value
  | ((_, v) :: _) :: _ => v
  | _ => .null

/-- The first row; null if there is none. -/
def firstRow : List Record → Value
  | r :: _ => .record r
  | [] => .null

/-- All rows. -/
def allRows (rows : List Record) : Value := .list (rows.map Value.record)

end ActionTree
