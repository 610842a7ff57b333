import ActionTree.Text.Quoted
import ActionTree.Value

/-!
# ActionTree.Json.Shape

What kind of value is expected, and what is said when another one is found.

1. a *kind* is what a single value has to be; a *schema* is a record of named
   fields, each of a kind, and each with a value that stands in for it when it is
   left out, or none if it must be there;
2. a record may be written as a list of its fields in their order, so a schema
   takes both;
3. fields that the schema does not name are passed over.

`Schema.ofValue` looks at values that were read already;
`ActionTree.Json.Shape.Reader` does the same while it reads, and knows the place
of every fault.  Both give the values of the fields in the order of the schema.
-/

namespace ActionTree.Json

open Text

/-! ## Kinds -/

/-- What a value has to be. -/
inductive Kind where
  /-- A text; the wording says what it is for. -/
  | text (wording : String)
  /-- A natural number below a limit. -/
  | natural (limit : Nat) (wording : String)
  | flag
  /-- One of a few words. -/
  | word (choices : List String)
  /-- A text, or null for none. -/
  | maybeText
  | texts
  | record
  | any
deriving DecidableEq, Repr

/-- What is expected, in words. -/
def Kind.wording : Kind → String
  | text w => w
  | natural _ w => w
  | flag => "a boolean"
  | word _ => "string or map"
  | maybeText => "a string"
  | texts => "a sequence"
  | record => "a map"
  | any => "any value"

/-- A value, in words. -/
def describe : Value → String
  | .null => "null"
  | .boolean b => "boolean `" ++ (if b then "true" else "false") ++ "`"
  | .number (.integer n) => "integer `" ++ String.ofList (intChars n) ++ "`"
  | .number (.real x) => "floating point `" ++ x.text ++ "`"
  | .text s => "string " ++ quoted s
  | .list _ => "sequence"
  | .record _ => "map"

/-! ## Faults in words -/

/-- The wording for a value of another type. -/
def wrongType (v : Value) (expected : String) : String :=
  "invalid type: " ++ describe v ++ ", expected " ++ expected

/-- The wording for a value out of bounds. -/
def wrongValue (v : Value) (expected : String) : String :=
  "invalid value: " ++ describe v ++ ", expected " ++ expected

/-- The wording for a list of a wrong length. -/
def wrongLength (length : Nat) (expected : String) : String :=
  "invalid length " ++ toString length ++ ", expected " ++ expected

/-- The wording for a field that is not there. -/
def missingField (name : String) : String := "missing field `" ++ name ++ "`"

/-- The wording for a field that is there twice. -/
def duplicateField (name : String) : String := "duplicate field `" ++ name ++ "`"

/-- The wording for a word that is none of the choices. -/
def unknownWord (choices : List String) (s : String) : String :=
  "unknown variant `" ++ s ++ "`, expected one of " ++
    ", ".intercalate (choices.map fun c => "`" ++ c ++ "`")

/-! ## Checking values -/

/-- A word among the choices. -/
def checkWord (choices : List String) (s : String) : Except String Value :=
  if choices.contains s then .ok (.text s) else .error (unknownWord choices s)

/-- A text. -/
def checkText (v : Value) : Except String Value :=
  match v with
  | .text s => .ok (.text s)
  | _ => .error (wrongType v "a string")

/-- Texts, one after another. -/
def checkTexts : List Value → Except String (List Value)
  | [] => .ok []
  | v :: vs =>
    match checkText v with
    | .error e => .error e
    | .ok w =>
      match checkTexts vs with
      | .error e => .error e
      | .ok ws => .ok (w :: ws)

/-- The integer of a value within bounds. -/
def checkNatural (limit : Nat) (wording : String) (v : Value) : Except String Value :=
  match v with
  | .number (.integer n) =>
    if 0 ≤ n && n < limit then .ok v else .error (wrongValue v wording)
  | _ => .error (wrongType v wording)

namespace Kind

/-- A value of a kind, in its plain form. -/
def check : Kind → Value → Except String Value
  | any, v => .ok v
  | text w, v =>
    match v with
    | .text _ => .ok v
    | _ => .error (wrongType v w)
  | natural limit w, v => checkNatural limit w v
  | flag, v =>
    match v with
    | .boolean _ => .ok v
    | _ => .error (wrongType v flag.wording)
  | maybeText, v =>
    match v with
    | .null => .ok v
    | _ => checkText v
  | texts, v =>
    match v with
    | .list vs => (checkTexts vs).map Value.list
    | _ => .error (wrongType v texts.wording)
  | record, v =>
    match v with
    | .record _ => .ok v
    | _ => .error (wrongType v record.wording)
  | word choices, v =>
    match v with
    | .text s => checkWord choices s
    | .record [(s, inner)] =>
      match checkWord choices s, inner with
      | .error e, _ => .error e
      | .ok w, .null => .ok w
      | .ok _, _ => .error (wrongType inner "unit")
    | .record _ => .error (wrongValue v "map with a single key")
    | _ => .error (wrongType v (word choices).wording)

end Kind

/-! ## Schemas -/

/-- A named field of a record. -/
structure Field where
  name : String
  kind : Kind
  /-- What stands in for the field when it is left out. -/
  default : Option Value := none

/-- The fields of a record, and what the record is called. -/
structure Schema where
  title : String
  fields : List Field

namespace Schema

/-- What a list of a wrong length should have been. -/
def lengthWording (s : Schema) : String :=
  s.title ++ " with " ++ toString s.fields.length ++ " elements"

/-- The field of a name. -/
def field? (s : Schema) (name : String) : Option Field := s.fields.find? fun f => f.name == name

/-- The values of the fields, those left out filled in. -/
def fill (found : Record) : List Field → Except String (List Value)
  | [] => .ok []
  | f :: fs =>
    match (Record.get? found f.name).or f.default with
    | none => .error (missingField f.name)
    | some v =>
      match fill found fs with
      | .error e => .error e
      | .ok vs => .ok (v :: vs)

/-- The checked values of the entries that the schema names. -/
def checkEntries (s : Schema) : Record → Except String Record
  | [] => .ok []
  | (k, v) :: es =>
    match s.field? k with
    | none => checkEntries s es
    | some f =>
      match f.kind.check v with
      | .error e => .error e
      | .ok w =>
        match checkEntries s es with
        | .error e => .error e
        | .ok ws => .ok ((k, w) :: ws)

/-- The values of fields that are written as a list; `position` many came
before. -/
def checkItems (s : Schema) : (position : Nat) → List Field → List Value →
    Except String (List Value)
  | _, [], _ => .ok []
  | position, f :: fs, [] =>
    match f.default with
    | none => .error (wrongLength position s.lengthWording)
    | some v =>
      match checkItems s (position + 1) fs [] with
      | .error e => .error e
      | .ok vs => .ok (v :: vs)
  | position, f :: fs, v :: vs =>
    match f.kind.check v with
    | .error e => .error e
    | .ok w =>
      match checkItems s (position + 1) fs vs with
      | .error e => .error e
      | .ok ws => .ok (w :: ws)

/-- The values of the fields in a value. -/
def ofValue (s : Schema) (v : Value) : Except String (List Value) :=
  match v with
  | .record es =>
    match s.checkEntries es with
    | .error e => .error e
    | .ok found => fill found s.fields
  | .list vs =>
    match s.checkItems 0 s.fields vs with
    | .error e => .error e
    | .ok ws =>
      if s.fields.length < vs.length then
        .error (wrongLength vs.length "fewer elements in array")
      else .ok ws
  | _ => .error (wrongType v s.title)

end Schema

end ActionTree.Json
