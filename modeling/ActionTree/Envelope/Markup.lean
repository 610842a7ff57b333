import ActionTree.Envelope
import ActionTree.Markup.Reference
import ActionTree.Value.Truth

/-!
# ActionTree.Envelope.Markup

Envelopes as XML.

1. the document is a `response` element with the status and the message as
   attributes, and a `payload` element inside;
2. an entry of a record is an element of its key's name, if the key is a plain
   name that does not start with `xml`; any other entry is an `item` with the
   key as an attribute; an item of a list is an `item` without one;
3. null and empty containers are tags that close themselves; every other value
   stands between an opening and a closing tag;
4. in the indented form every tag starts a line, except that a closing tag
   stays behind the text it closes, and every value's element says of what kind
   the value is.

A printer takes what follows as its last argument.
-/

namespace ActionTree.Envelope

open Text ActionTree.Markup

/-! ## Names -/

/-- A character that an element's name may start with. -/
def isElementStart (c : Char) : Bool := c.isAlpha || c = '_'

/-- A character that an element's name may hold. -/
def isElementChar (c : Char) : Bool := isAlnum c || c = '_' || c = '-' || c = '.'

/-- A key that can name an element: plain, and not one of the names that XML
keeps for itself. -/
def isElementName (key : String) : Bool :=
  match key.toList with
  | [] => false
  | c :: cs =>
    isElementStart c && !startsWith "xml" (lower key) && (c :: cs).all isElementChar

/-! ## Tags -/

/-- An attribute before `rest`. -/
def writeAttribute (key value : String) (rest : List Char) : List Char :=
  ' ' :: (key.toList ++ '=' :: '"' :: (escape value.toList ++ '"' :: rest))

/-- An attribute before `rest`, if there is a value for it. -/
def writeAttribute? (key : String) (value : Option String) (rest : List Char) : List Char :=
  match value with
  | some v => writeAttribute key v rest
  | none => rest

/-- The start of an element's tag: its name, its key, and in the indented form
what kind of value it holds. -/
def openTag (indented : Bool) (name : String) (key : Option String) (kind : String)
    (rest : List Char) : List Char :=
  '<' :: (name.toList ++
    writeAttribute? "key" key
      (writeAttribute? "type" (if indented then some kind else none) rest))

/-- A closing tag before `rest`. -/
def closeTag (name : String) (rest : List Char) : List Char :=
  '<' :: '/' :: (name.toList ++ '>' :: rest)

/-- In the indented form, a new line at a level, before `rest`. -/
def breakLine (indented : Bool) (level : Nat) (rest : List Char) : List Char :=
  if indented then '\n' :: (List.replicate (2 * level) ' ' ++ rest) else rest

/-- The name of an entry's element. -/
def entryName (key : String) : String := if isElementName key then key else "item"

/-- The key that an entry's element has to carry, because its name does not. -/
def entryKey (key : String) : Option String := if isElementName key then none else some key

/-! ## Values -/

mutual

/-- The element of a value before `rest`. -/
def writeElement (indented : Bool) (level : Nat) (name : String) (key : Option String) :
    Value → List Char → List Char
  | .null, rest =>
    breakLine indented level (openTag indented name key "null" ('/' :: '>' :: rest))
  | .list [], rest =>
    breakLine indented level (openTag indented name key "array" ('/' :: '>' :: rest))
  | .record [], rest =>
    breakLine indented level (openTag indented name key "object" ('/' :: '>' :: rest))
  | .list (v :: vs), rest =>
    breakLine indented level (openTag indented name key "array"
      ('>' :: writeElement indented (level + 1) "item" none v
        (writeItems indented (level + 1) vs (breakLine indented level (closeTag name rest)))))
  | .record ((k, v) :: es), rest =>
    breakLine indented level (openTag indented name key "object"
      ('>' :: writeElement indented (level + 1) (entryName k) (entryKey k) v
        (writeEntries indented (level + 1) es (breakLine indented level (closeTag name rest)))))
  | .boolean b, rest =>
    breakLine indented level (openTag indented name key "boolean"
      ('>' :: (escape (Value.boolean b).toText.toList ++ closeTag name rest)))
  | .number n, rest =>
    breakLine indented level (openTag indented name key "number"
      ('>' :: (escape (Value.number n).toText.toList ++ closeTag name rest)))
  | .text s, rest =>
    breakLine indented level (openTag indented name key "string"
      ('>' :: (escape s.toList ++ closeTag name rest)))
termination_by structural v => v

/-- The elements of items before `rest`. -/
def writeItems (indented : Bool) (level : Nat) : List Value → List Char → List Char
  | [], rest => rest
  | v :: vs, rest =>
    writeElement indented level "item" none v (writeItems indented level vs rest)
termination_by structural vs => vs

/-- The elements of entries before `rest`. -/
def writeEntries (indented : Bool) (level : Nat) :
    List (String × Value) → List Char → List Char
  | [], rest => rest
  | (k, v) :: es, rest =>
    writeElement indented level (entryName k) (entryKey k) v
      (writeEntries indented level es rest)
termination_by structural es => es

end

/-! ## Envelopes -/

/-- What every document starts with. -/
def declaration : String := "<?xml version=\"1.0\" encoding=\"UTF-8\"?>"

/-- The document of an envelope. -/
def writeDocument (indented : Bool) (e : Envelope) : List Char :=
  declaration.toList ++
    breakLine indented 0 ('<' :: ("response".toList ++
      writeAttribute "status" (toString e.status) (writeAttribute? "message" e.message
        ('>' :: writeElement indented 1 "payload" none e.payload
          (breakLine indented 0 (closeTag "response" []))))))

/-- The text of an envelope in a format. -/
def serialize (e : Envelope) : Format → String
  | .json => String.ofList (e.writeObject [])
  | .xml => String.ofList (writeDocument false e)
  | .xmlDebug => String.ofList (writeDocument true e)

end ActionTree.Envelope
