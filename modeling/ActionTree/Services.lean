import ActionTree.Context
import ActionTree.Error
import ActionTree.Template

/-!
# ActionTree.Services

The collaborators of a program: templates, a database, privileges.

1. each is a value that answers questions, so a program sees nothing else of
   them;
2. a database says beside its answer which statement it carried out, if any, and
   rows can be read one after another by a cursor that may fail on the way;
3. a privilege expression `a&b|c` names alternatives, and every name of one
   alternative has to be granted.

`Database.ofTable` answers from fixed rows.  It compares statements after every
run of blanks in them was made one space.
-/

namespace ActionTree

open Text

/-! ## Templates -/

/-- How the references in a text are expanded. -/
abbrev Templates := String → Context → Except ServiceError String

namespace Templates

/-- References in braces. -/
def braces : Templates := fun text c => .ok (Template.expand text c)

/-- Whether a text occurs in another. -/
def occursIn (part : List Char) : List Char → Bool
  | [] => part.isEmpty
  | c :: cs => (stripStartChars part (c :: cs)).isSome || occursIn part cs

/-- Templates that refuse every text with a given part. -/
def refusing (part : String) (inner : Templates) : Templates := fun text c =>
  if occursIn part.toList text.toList then .error (.template ("cannot expand " ++ text))
  else inner text c

end Templates

/-! ## Databases -/

/-- Rows that are read one after another, and what the reading ends with when
it does not simply end. -/
structure Cursor where
  rows : List Record
  ending : Option ServiceError := none

/-- The cursor that fails after a number of rows, if it has that many. -/
def Cursor.failingAfter (c : Cursor) (count : Nat) (cause : ServiceError) : Cursor :=
  if count ≤ c.rows.length then ⟨c.rows.take count, some cause⟩ else c

/-- The answer of a database, and the statement that it carried out for it. -/
structure Answer (α : Type) where
  statement : Option String
  result : Except ServiceError α

/-- A database. -/
structure Database where
  /-- All rows of a statement. -/
  rows : String → Answer (List Record)
  /-- The rows of a statement, one after another. -/
  cursor : String → Answer Cursor

/-- A statement that fails: before it reaches the database, or after as many
rows as are given. -/
structure Outage where
  statement : String
  cause : ServiceError
  after : Option Nat := none

namespace Database

/-- The rows that a table has for a statement; of several the last counts. -/
def rowsIn? (table : List (String × List Record)) (statement : String) : Option (List Record) :=
  (table.reverse.find? fun (s, _) => collapse s == statement).map Prod.snd

/-- A database that answers from fixed rows. -/
def ofTable (table : List (String × List Record)) : Database :=
  let rows (sql : String) : Answer (List Record) :=
    let statement := collapse sql
    { statement := some statement
      result := match rowsIn? table statement with
        | some rs => .ok rs
        | none => .error (.database ("unexpected statement: " ++ statement)) }
  { rows
    cursor := fun sql => { rows sql with result := (rows sql).result.map fun rs => { rows := rs } } }

/-- A database with outages. -/
def withOutages (db : Database) (outages : List Outage) : Database :=
  let find (sql : String) : Option Outage := outages.find? fun o => o.statement == sql
  { rows := fun sql =>
      match find sql with
      | some o => ⟨none, .error o.cause⟩
      | none => db.rows sql
    cursor := fun sql =>
      match find sql with
      | some o =>
        match o.after with
        | none => ⟨none, .error o.cause⟩
        | some n =>
          { db.cursor sql with
            result := (db.cursor sql).result.map fun c => Cursor.failingAfter c n o.cause }
      | none => db.cursor sql }

end Database

/-! ## Privileges -/

/-- The privileges of the current user, and the user's record. -/
structure Privileges where
  granted : List String := []
  user : Option Record := none

namespace Privileges

/-- The names of one alternative. -/
def namesOf (alternative : String) : List String := (pieces '&' alternative).filterMap trimmed?

/-- Whether a privilege expression holds: all names of some alternative are
granted, and it has at least one. -/
def holds (p : Privileges) (expression : String) : Bool :=
  (pieces '|' expression).any fun alternative =>
    let names := namesOf alternative
    !names.isEmpty && names.all fun name => p.granted.contains name

end Privileges

/-! ## All of them -/

/-- The collaborators of an engine. -/
structure Services where
  templates : Templates := Templates.braces
  database : Option Database := none
  privileges : Privileges := {}

end ActionTree
