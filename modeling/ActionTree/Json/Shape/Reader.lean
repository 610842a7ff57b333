import ActionTree.Json.Reader
import ActionTree.Json.Shape

/-!
# ActionTree.Json.Shape.Reader

Reading a text that has to have a given shape.

1. a value of a wrong kind is a fault with a place: a number, a text or a word is
   taken first, a list or a record is left unread;
2. a fault that concerns a whole record, such as a field that is missing, has its
   place behind the closing brace if the reader stands in front of it;
3. what stands under a field that the schema does not name is skipped: it has to
   be well formed, but its numbers may be out of range, its texts may hold half a
   pair of escapes, and it may be as deep as it likes.
-/

namespace ActionTree.Json

open Text

/-! ## Skipping -/

/-- A text behind its opening quote, skipped; `fuel` is at least the number of
characters in front. -/
def skipText : (fuel : Nat) → List Char → Reading Unit
  | 0, cs => fault .endInText cs
  | fuel + 1, cs =>
    match cs with
    | [] | ['\\'] => fault .endInText []
    | '"' :: r => .ok ((), r)
    | '\\' :: 'u' :: r =>
      match readHex r with
      | .error f => .error f
      | .ok (_, r) => skipText fuel r
    | '\\' :: c :: r =>
      if ['"', '\\', '/', 'b', 'f', 'n', 'r', 't'].contains c then skipText fuel r
      else faultAt .invalidEscape (c :: r)
    | c :: r => if c.toNat < 0x20 then fault .controlCharacter (c :: r) else skipText fuel r

/-- One digit or more, skipped. -/
def skipDigits (cs : List Char) : Reading Unit :=
  match cs with
  | c :: r => if c.isDigit then .ok ((), r.dropWhile Char.isDigit) else faultAt .invalidNumber cs
  | [] => faultAt .invalidNumber []

/-- An exponent behind its mark, skipped. -/
def skipPower (cs : List Char) : Reading Unit :=
  match cs with
  | '+' :: r | '-' :: r => skipDigits r
  | r => skipDigits r

/-- What follows the whole part of a number, skipped. -/
def skipTail (cs : List Char) : Reading Unit :=
  match cs with
  | '.' :: r =>
    match skipDigits r with
    | .error f => .error f
    | .ok (_, 'e' :: r) | .ok (_, 'E' :: r) => skipPower r
    | .ok (_, r) => .ok ((), r)
  | 'e' :: r | 'E' :: r => skipPower r
  | r => .ok ((), r)

/-- A number behind its sign, skipped. -/
def skipNumber (cs : List Char) : Reading Unit :=
  match cs with
  | '0' :: r =>
    match r with
    | c :: _ => if c.isDigit then faultAt .invalidNumber r else skipTail r
    | [] => .ok ((), [])
  | c :: r =>
    if c.isDigit then skipTail (r.dropWhile Char.isDigit) else faultAt .invalidNumber cs
  | [] => faultAt .invalidNumber []

/-- What closes a container, and what is wrong when it does not. -/
structure Bracket where
  close : Char
  atEnd : Cause
  otherwise : Cause

/-- The bracket of lists. -/
def listBracket : Bracket := ⟨']', .endInList, .expectedListEnd⟩

/-- The bracket of records. -/
def recordBracket : Bracket := ⟨'\x7d', .endInRecord, .expectedRecordEnd⟩

/-- The parts behind a part up to the closing bracket, skipped. -/
def skipMoreParts (b : Bracket) (part : List Char → Reading Unit) :
    (fuel : Nat) → List Char → Reading Unit
  | 0, cs => fault b.atEnd cs
  | fuel + 1, cs =>
    match skip cs with
    | [] => fault b.atEnd []
    | c :: r =>
      if c = ',' then
        match part r with
        | .error f => .error f
        | .ok (_, r) => skipMoreParts b part fuel r
      else if c = b.close then .ok ((), r)
      else faultAt b.otherwise (c :: r)

/-- The parts behind the opening bracket, skipped. -/
def skipParts (b : Bracket) (part : List Char → Reading Unit) (cs : List Char) :
    Reading Unit :=
  match skip cs with
  | [] => fault b.atEnd []
  | c :: r =>
    if c = b.close then .ok ((), r)
    else
      match part (c :: r) with
      | .error f => .error f
      | .ok (_, r) => skipMoreParts b part (r.length + 1) r

/-- An entry, skipped. -/
def skipEntry (value : List Char → Reading Unit) (cs : List Char) : Reading Unit :=
  match skip cs with
  | [] => fault .endInRecord []
  | '"' :: r =>
    match skipText (r.length + 1) r with
    | .error f => .error f
    | .ok (_, r) =>
      match readColon r with
      | .error f => .error f
      | .ok (_, r) => value r
  | r => faultAt .keyNotText r

/-- A value, skipped; `fuel` is at least its depth. -/
def skipValue : (fuel : Nat) → List Char → Reading Unit
  | 0, cs => fault .endInValue cs
  | fuel + 1, cs =>
    match skip cs with
    | [] => fault .endInValue []
    | 'n' :: r => readWord ['u', 'l', 'l'] r
    | 't' :: r => readWord ['r', 'u', 'e'] r
    | 'f' :: r => readWord ['a', 'l', 's', 'e'] r
    | '-' :: r => skipNumber r
    | '"' :: r => skipText (r.length + 1) r
    | '[' :: r => skipParts listBracket (skipValue fuel) r
    | '{' :: r => skipParts recordBracket (skipEntry (skipValue fuel)) r
    | c :: r => if c.isDigit then skipNumber (c :: r) else faultAt .expectedValue (c :: r)

/-! ## Kinds -/

/-- The fault of a value that is not what was expected. -/
def mismatch {α : Type} (cs : List Char) (wording : String) : Except Fault α :=
  match cs with
  | '[' :: _ => fault (.shape (wrongType (.list []) wording)) cs
  | '{' :: _ => fault (.shape (wrongType (.record []) wording)) cs
  | _ =>
    match readValue 0 cs with
    | .error f => .error f
    | .ok (v, r) => fault (.shape (wrongType v wording)) r

/-- A value that is neither list nor record, of a kind. -/
def readPlain (k : Kind) (cs : List Char) : Reading Value :=
  match skip cs with
  | [] => fault .endInValue []
  | '[' :: r => mismatch ('[' :: r) k.wording
  | '{' :: r => mismatch ('{' :: r) k.wording
  | r =>
    match readValue 0 r with
    | .error f => .error f
    | .ok (v, r) =>
      match k.check v with
      | .error message => fault (.shape message) r
      | .ok w => .ok (w, r)

/-- A word among the choices behind its opening quote. -/
def readChoice (choices : List String) (cs : List Char) : Reading Value :=
  match readText cs with
  | .error f => .error f
  | .ok (s, r) =>
    match checkWord choices s with
    | .error message => fault (.shape message) r
    | .ok w => .ok (w, r)

/-- The null that stands with a word in a record, and the closing brace. -/
def readUnit (cs : List Char) : Reading Unit :=
  match skip cs with
  | [] => fault .endInValue []
  | 'n' :: r =>
    match readWord ['u', 'l', 'l'] r with
    | .error f => .error f
    | .ok (_, r) =>
      match skip r with
      | [] => fault .endInRecord []
      | '}' :: r => .ok ((), r)
      | r => fault .expectedValue r
  | r => mismatch r "unit"

/-- A word among the choices, alone or as the one key of a record. -/
def readChoiceForm (choices : List String) (cs : List Char) : Reading Value :=
  match skip cs with
  | [] => fault .endInValue []
  | '"' :: r => readChoice choices r
  | '{' :: r =>
    match skip r with
    | [] => fault .endInValue []
    | '"' :: r =>
      match readChoice choices r with
      | .error f => .error f
      | .ok (w, r) =>
        match readColon r with
        | .error f => .error f
        | .ok (_, r) =>
          match readUnit r with
          | .error f => .error f
          | .ok (_, r) => .ok (w, r)
    | r => mismatch r "variant identifier"
  | r => faultAt .expectedValue r

/-- A value of a kind. -/
def readKind (k : Kind) (cs : List Char) : Reading Value :=
  match k with
  | .any => readValue (maxDepth - 1) cs
  | .word choices => readChoiceForm choices cs
  | .texts =>
    match skip cs with
    | '[' :: r =>
      match readItems (readPlain (.text "a string")) r with
      | .error f => .error f
      | .ok (vs, r) => .ok (.list vs, r)
    | r => readPlain k r
  | .record =>
    match skip cs with
    | '{' :: r => readValue (maxDepth - 1) ('{' :: r)
    | r => readPlain k r
  | _ => readPlain k cs

/-! ## Records -/

/-- The characters behind the closing bracket, if it is the next one. -/
def behind (close : Char) (cs : List Char) : List Char :=
  match skip cs with
  | c :: r => if c = close then r else c :: r
  | [] => []

/-- The quote that opens the next key; `none` in front of the closing brace. -/
def readKeyStart (first : Bool) (cs : List Char) : Reading (Option Unit) :=
  match skip cs with
  | [] => fault .endInRecord []
  | '}' :: r => .ok (none, '}' :: r)
  | '"' :: r => if first then .ok (some (), r) else faultAt .expectedRecordEnd ('"' :: r)
  | ',' :: r =>
    if first then faultAt .keyNotText (',' :: r)
    else
      match skip r with
      | [] => fault .endInValue []
      | '"' :: r => .ok (some (), r)
      | '}' :: r => faultAt .trailingComma ('}' :: r)
      | r => faultAt .keyNotText r
  | r => faultAt (if first then .keyNotText else .expectedRecordEnd) r

namespace Schema

/-- The value of the field of a key, added to the fields that were found. -/
def readFieldOf (s : Schema) (found : Record) (key : String) (cs : List Char) :
    Reading Record :=
  match s.field? key with
  | none =>
    match readColon cs with
    | .error f => .error f
    | .ok (_, r) =>
      match skipValue (r.length + 1) r with
      | .error f => .error f
      | .ok (_, r) => .ok (found, r)
  | some field =>
    if Record.has found key then
      fault (.shape (duplicateField key)) (behind '\x7d' cs)
    else
      match readColon cs with
      | .error f => .error f
      | .ok (_, r) =>
        match readKind field.kind r with
        | .error f => .error f
        | .ok (v, r) => .ok (found ++ [(key, v)], r)

/-- The fields up to the closing brace. -/
def readFields (s : Schema) : (fuel : Nat) → (first : Bool) → Record → List Char →
    Reading Record
  | 0, _, _, cs => fault .endInRecord cs
  | fuel + 1, first, found, cs =>
    match readKeyStart first cs with
    | .error f => .error f
    | .ok (none, r) => .ok (found, r)
    | .ok (some _, r) =>
      match readText r with
      | .error f => .error f
      | .ok (key, r) =>
        match s.readFieldOf found key r with
        | .error f => .error f
        | .ok (found, r) => readFields s fuel false found r

/-- The start of the next item; `none` in front of the closing bracket. -/
def readItemStart (first : Bool) (cs : List Char) : Reading (Option Unit) :=
  match skip cs with
  | [] => fault .endInList []
  | ']' :: r => .ok (none, ']' :: r)
  | c :: r =>
    if first then .ok (some (), c :: r)
    else if c = ',' then
      match skip r with
      | [] => fault .endInValue []
      | ']' :: r => faultAt .trailingComma (']' :: r)
      | r => .ok (some (), r)
    else faultAt .expectedListEnd (c :: r)

/-- The fields as items; `position` many came before. -/
def readItemsOf (s : Schema) : (position : Nat) → List Field → List Char →
    Reading (List Value)
  | _, [], cs => .ok ([], cs)
  | position, field :: fields, cs =>
    match readItemStart (position == 0) cs with
    | .error f => .error f
    | .ok (none, r) =>
      match field.default with
      | none => fault (.shape (wrongLength position s.lengthWording)) (behind ']' r)
      | some v =>
        match readItemsOf s (position + 1) fields r with
        | .error f => .error f
        | .ok (vs, r) => .ok (v :: vs, r)
    | .ok (some _, r) =>
      match readKind field.kind r with
      | .error f => .error f
      | .ok (v, r) =>
        match readItemsOf s (position + 1) fields r with
        | .error f => .error f
        | .ok (vs, r) => .ok (v :: vs, r)

/-- The closing bracket behind the last field. -/
def readListEnd (cs : List Char) : Reading Unit :=
  match skip cs with
  | [] => fault .endInList []
  | ']' :: r => .ok ((), r)
  | ',' :: r =>
    match skip r with
    | ']' :: r => faultAt .trailingComma (']' :: r)
    | r => faultAt .trailingCharacters r
  | r => faultAt .trailingCharacters r

/-- The values of the fields. -/
def readFrom (s : Schema) (cs : List Char) : Reading (List Value) :=
  match skip cs with
  | [] => fault .endInValue []
  | '{' :: r =>
    match s.readFields (r.length + 1) true [] r with
    | .error f => .error f
    | .ok (found, r) =>
      match fill found s.fields with
      | .error message => fault (.shape message) (behind '\x7d' r)
      | .ok vs => .ok (vs, behind '\x7d' r)
  | '[' :: r =>
    match s.readItemsOf 0 s.fields r with
    | .error f => .error f
    | .ok (vs, r) =>
      match readListEnd r with
      | .error f => .error f
      | .ok (_, r) => .ok (vs, r)
  | r => mismatch r s.title

/-- The values of the fields in a whole text. -/
def read (s : Schema) (source : List Char) : Except Fault (List Value) :=
  match s.readFrom source with
  | .error f => .error f
  | .ok (vs, r) =>
    match readEnd r with
    | .error f => .error f
    | .ok _ => .ok vs

end Schema

/-- The entries of a record that is a whole text. -/
def readRecord (source : List Char) : Except Fault Record :=
  match skip source with
  | [] => fault .endInValue []
  | '{' :: r =>
    match readValue maxDepth ('{' :: r) with
    | .error f => .error f
    | .ok (v, r) =>
      match readEnd r with
      | .error f => .error f
      | .ok _ => .ok (v.record?.getD [])
  | r => mismatch r "a map"

end ActionTree.Json
