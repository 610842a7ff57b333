/-!
# ActionTree.Markup.Fault

What can be wrong with a document.

1. faults of the *scan* and of the *nesting* know the byte at which reading
   stopped;
2. faults of an attribute know their byte within the tag, and faults of a
   reference their bytes within the text or the value it stands in;
3. a document may also be well formed and still have no root, or more than one.
-/

namespace ActionTree.Markup

/-- What the scan stopped at. -/
inductive ScanFault where
  | unknownMark
  | openTag
  | openInstruction
  | openComment
  | openRaw
  | openDoctype
deriving DecidableEq, Repr

/-- What is wrong with the number of a character. -/
inductive NumberFault where
  | empty
  | sign
  | digit
  | tooLarge
  | zero
  | notCharacter (n : Nat)
deriving DecidableEq, Repr

/-- What is wrong with a document. -/
inductive Fault where
  | scan (offset : Nat) (fault : ScanFault)
  | namelessDoctype (offset : Nat)
  | strayEnd (offset : Nat) (name : String)
  | wrongEnd (offset : Nat) (expected found : String)
  | expectedEquals (position : Nat)
  | expectedValue (position : Nat)
  | unquotedValue (position : Nat)
  | openValue (position : Nat) (quote : Char)
  | duplicate (position previous : Nat)
  | openReference (start stop : Nat)
  | unknownReference (start stop : Nat) (name : String)
  | badNumber (fault : NumberFault)
  | openElement (name : String)
  | noRoot
  | manyRoots
deriving DecidableEq, Repr

/-- The wording of a fault of the scan. -/
def ScanFault.message : ScanFault → String
  | unknownMark => "unknown or missed symbol in markup"
  | openTag => "tag not closed: `>` not found before end of input"
  | openInstruction =>
    "processing instruction or xml declaration not closed: `?>` not found before end of input"
  | openComment => "comment not closed: `-->` not found before end of input"
  | openRaw => "CDATA not closed: `]]>` not found before end of input"
  | openDoctype => "DOCTYPE not closed: `>` not found before end of input"

/-- The wording of a fault in a character's number. -/
def NumberFault.message : NumberFault → String
  | empty => "cannot parse integer from empty string"
  | sign => "unexpected number sign"
  | digit => "invalid digit found in string"
  | tooLarge => "number too large to fit in target type"
  | zero => "0x0 character is not permitted in XML"
  | notCharacter n => "`" ++ toString n ++ "` is not a valid codepoint"

/-- The wording of a fault. -/
def Fault.message : Fault → String
  | scan offset f => "at byte " ++ toString offset ++ ": syntax error: " ++ f.message
  | namelessDoctype offset =>
    "at byte " ++ toString offset ++ ": ill-formed document: " ++
      "`<!DOCTYPE>` declaration does not contain a name of a document type"
  | strayEnd offset name =>
    "at byte " ++ toString offset ++ ": ill-formed document: " ++
      "close tag `</" ++ name ++ ">` does not match any open tag"
  | wrongEnd offset expected found =>
    "at byte " ++ toString offset ++ ": ill-formed document: " ++
      "expected `</" ++ expected ++ ">`, but `</" ++ found ++ ">` was found"
  | expectedEquals p =>
    "position " ++ toString p ++ ": attribute key must be directly followed by `=` or space"
  | expectedValue p =>
    "position " ++ toString p ++ ": `=` must be followed by an attribute value"
  | unquotedValue p =>
    "position " ++ toString p ++ ": attribute value must be enclosed in `\"` or `'`"
  | openValue p quote =>
    "position " ++ toString p ++ ": missing closing quote `" ++ toString quote ++
      "` in attribute value"
  | duplicate p previous =>
    "position " ++ toString p ++ ": duplicated attribute, previous declaration at position " ++
      toString previous
  | openReference start stop =>
    "Error while escaping character at range " ++ toString start ++ ".." ++ toString stop ++
      ": Cannot find ';' after '&'"
  | unknownReference start stop name =>
    "at " ++ toString start ++ ".." ++ toString stop ++ ": unrecognized entity `" ++ name ++ "`"
  | badNumber f => "invalid character reference: " ++ f.message
  | openElement name => "unclosed element <" ++ name ++ ">"
  | noRoot => "document has no root element"
  | manyRoots => "document has more than one root element"

end ActionTree.Markup
