import ActionTree.Error
import ActionTree.Json.Printer

/-!
# ActionTree.Envelope

The uniform reply: a status, a message, a payload.

1. an envelope becomes a record of `status`, `message` and `payload` in that
   order; there is no `message` entry when there is no message;
2. an envelope may bring header lines of its own; they are sent with it and are
   no part of its text;
3. a format says how the text of an envelope is written.
-/

namespace ActionTree

/-! ## Formats -/

/-- How an envelope is written. -/
inductive Format where
  /-- Compact JSON. -/
  | json
  /-- Compact XML. -/
  | xml
  /-- XML with a line for every tag and the kind of every value. -/
  | xmlDebug
deriving DecidableEq, Repr, Inhabited

namespace Format

/-- The name that configurations know a format by. -/
def name : Format → String
  | json => "json"
  | xml => "xml"
  | xmlDebug => "xml-debug"

/-- All formats, in the order in which they are listed. -/
def all : List Format := [json, xml, xmlDebug]

/-- The format of a name. -/
def ofName? (s : String) : Option Format := all.find? fun f => f.name == s

/-- The header line that says what a format's text is. -/
def contentType : Format → String
  | json => "Content-Type: application/json; charset=utf-8"
  | xml | xmlDebug => "Content-Type: text/xml; charset=utf-8"

end Format

/-! ## Envelopes -/

/-- A reply with a status. -/
structure Envelope where
  status : Nat
  message : Option String := none
  payload : Value := .null
  headers : List String := []

namespace Envelope

/-- The envelope of a success. -/
def ok (payload : Value) : Envelope := { status := 200, payload }

/-- The envelope of a failure. -/
def failure (status : Nat) (message : String) : Envelope := { status, message := some message }

/-- The envelope of an error.  Only a detailed one shows what the client is not
meant to see. -/
def ofError (e : Error) (detailed : Bool) : Envelope :=
  failure e.status (if detailed then e.message else e.publicMessage)

/-- The envelope as a record. -/
def toRecord (e : Envelope) : Record :=
  ("status", Value.nat e.status) ::
    (match e.message with
      | some m => [("message", Value.text m), ("payload", e.payload)]
      | none => [("payload", e.payload)])

/-- The envelope as a value. -/
def toValue (e : Envelope) : Value := .record e.toRecord

/-! ## As a JSON object -/

/-- The entry of a message before `rest`, if there is a message. -/
def writeMessage (message : Option String) (rest : List Char) : List Char :=
  match message with
  | some m => ',' :: Json.writeText "message" (':' :: Json.writeText m rest)
  | none => rest

/-- An envelope as an object before `rest`, written field by field. -/
def writeObject (e : Envelope) (rest : List Char) : List Char :=
  '{' :: Json.writeText "status" (':' :: (Text.digitsOf e.status ++ writeMessage e.message
    (',' :: Json.writeText "payload" (':' :: Json.write e.payload ('}' :: rest)))))

end Envelope

end ActionTree
