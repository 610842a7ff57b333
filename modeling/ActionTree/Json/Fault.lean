import ActionTree.Text.Utf8

/-!
# ActionTree.Json.Fault

What can be wrong with a JSON text, and where.

1. a fault has a cause and the number of bytes that were left when it was
   found; how many bytes a reader has in front of it is all it knows of its
   place;
2. the place is shown as a line and a column: lines start at one, and the
   column is the number of bytes of the line before the place, so a place at
   the very beginning has column zero;
3. a cause may also be a shape: the text is JSON, but not of the kind of value
   that was asked for.
-/

namespace ActionTree.Json

open Text

/-! ## Causes -/

/-- Why a JSON text was refused. -/
inductive Cause where
  | endInValue
  | endInList
  | endInRecord
  | endInText
  | expectedColon
  | expectedListEnd
  | expectedRecordEnd
  | expectedWord
  | expectedValue
  | invalidEscape
  | invalidNumber
  | numberOutOfRange
  | invalidCodePoint
  | controlCharacter
  | keyNotText
  | loneSurrogate
  | trailingComma
  | trailingCharacters
  | shortEscape
  | tooDeep
  | shape (message : String)
deriving DecidableEq, Repr

/-- The wording of a cause. -/
def Cause.message : Cause → String
  | endInValue => "EOF while parsing a value"
  | endInList => "EOF while parsing a list"
  | endInRecord => "EOF while parsing an object"
  | endInText => "EOF while parsing a string"
  | expectedColon => "expected `:`"
  | expectedListEnd => "expected `,` or `]`"
  | expectedRecordEnd => "expected `,` or `\x7d`"
  | expectedWord => "expected ident"
  | expectedValue => "expected value"
  | invalidEscape => "invalid escape"
  | invalidNumber => "invalid number"
  | numberOutOfRange => "number out of range"
  | invalidCodePoint => "invalid unicode code point"
  | controlCharacter => "control character (\\u0000-\\u001F) found while parsing a string"
  | keyNotText => "key must be a string"
  | loneSurrogate => "lone leading surrogate in hex escape"
  | trailingComma => "trailing comma"
  | trailingCharacters => "trailing characters"
  | shortEscape => "unexpected end of hex escape"
  | tooDeep => "recursion limit exceeded"
  | shape message => message

/-- A cause and how many bytes were left behind its place. -/
structure Fault where
  cause : Cause
  left : Nat
deriving DecidableEq, Repr

/-! ## Raising a fault -/

/-- What a reader gives: a value and the characters after it, or a fault. -/
abbrev Reading (α : Type) := Except Fault (α × List Char)

/-- A fault just in front of `rest`. -/
def fault {α : Type} (cause : Cause) (rest : List Char) : Except Fault α :=
  .error ⟨cause, sizeOfChars rest⟩

/-- A fault just behind the first byte of `rest`, or at its end if it is
empty. -/
def faultAt {α : Type} (cause : Cause) (rest : List Char) : Except Fault α :=
  .error ⟨cause, sizeOfChars rest - 1⟩

/-! ## Places -/

/-- The line and the column after `offset` bytes, counted on from a line and a
column. -/
def placeFrom (line column : Nat) : List Char → (offset : Nat) → Nat × Nat
  | [], _ => (line, column)
  | c :: cs, offset =>
    if offset = 0 then (line, column)
    else if offset < c.utf8Size then (line, column + offset)
    else if c = '\n' then placeFrom (line + 1) 0 cs (offset - 1)
    else placeFrom line (column + c.utf8Size) cs (offset - c.utf8Size)

/-- The line and the column of a fault in its source. -/
def Fault.place (f : Fault) (source : List Char) : Nat × Nat :=
  placeFrom 1 0 source (sizeOfChars source - f.left)

/-- The cause and the place of a fault. -/
def Fault.message (f : Fault) (source : List Char) : String :=
  let (line, column) := f.place source
  f.cause.message ++ " at line " ++ toString line ++ " column " ++ toString column

end ActionTree.Json
