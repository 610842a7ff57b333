import ActionTree.Pattern.Syntax
import ActionTree.Text.Blank
import ActionTree.Word

/-!
# ActionTree.Pattern.Reader

Going through a pattern from left to right.

1. a reader stops at the first fault;
2. between the parts of a pattern it passes over blanks and comments if it was told
   so;
3. the loops are bounded by the number of characters in front of them.

`ActionTree.Pattern.Reader.Escape` and `ActionTree.Pattern.Reader.Brackets` read what
stands behind a backslash and what stands in brackets, and
`ActionTree.Pattern.Reader.Whole` reads a whole pattern.
-/

namespace ActionTree.Pattern

open Text

/-! ## The state of a reader -/

/-- Where a reader is, whether it passes over blanks and comments, how many groups
count so far, and the names of groups. -/
structure Reader where
  rest : List Char
  place : Place := {}
  verbose : Bool := false
  groups : Nat := 0
  names : List (String × Span) := []

/-- A step of a reader. -/
abbrev Parse (α : Type) := StateT Reader (Except Fault) α

/-! ## Characters -/

/-- Refuses the pattern. -/
def refuse {α : Type} (cause : Cause) (span : Span) (other : Option Span) : Parse α :=
  throw ⟨cause, span, other⟩

/-- The place of the reader. -/
def place : Parse Place := do return (← get).place

/-- The next character. -/
def peek : Parse (Option Char) := do return (← get).rest.head?

/-- The character after the next one. -/
def peekSecond : Parse (Option Char) := do return (← get).rest[1]?

/-- Whether nothing is left. -/
def atEnd : Parse Bool := do return (← get).rest.isEmpty

/-- The reader behind the next character. -/
def Reader.bumped (r : Reader) : Reader :=
  match r.rest with
  | [] => r
  | c :: cs => { r with rest := cs, place := r.place.after c }

/-- Passes the next character. -/
def bump : Parse Unit := modify Reader.bumped

/-- The reader behind so many characters. -/
def Reader.bumpedBy : Nat → Reader → Reader
  | 0, r => r
  | n + 1, r => bumpedBy n r.bumped

/-- The span from a place to the reader. -/
def since (start : Place) : Parse Span := do return ⟨start, ← place⟩

/-- The span of nothing at the reader. -/
def here : Parse Span := do return Span.empty (← place)

/-- The span of the next character. -/
def nextSpan : Parse Span := do
  let r ← get
  return ⟨r.place, r.bumped.place⟩

/-- How many characters of blanks and comments come next. -/
def spaceLength : (inComment : Bool) → List Char → Nat
  | _, [] => 0
  | true, c :: cs => 1 + spaceLength (c != '\n') cs
  | false, c :: cs =>
    if isBlank c then 1 + spaceLength false cs
    else if c = '#' then 1 + spaceLength true cs
    else 0

/-- Passes blanks and comments, if they are to be passed over. -/
def skipSpace : Parse Unit :=
  modify fun r => if r.verbose then r.bumpedBy (spaceLength false r.rest) else r

/-- Passes the next character and blanks behind it; whether anything is left. -/
def advance : Parse Bool := do
  bump
  skipSpace
  return !(← atEnd)

/-- Passes a text if it comes next; whether it did. -/
def passIf (s : String) : Parse Bool := do
  let r ← get
  match stripStartChars s.toList r.rest with
  | some _ => do
    set (r.bumpedBy s.length)
    return true
  | none => return false

/-- The character behind the next one, blanks and the start of a comment passed
over. -/
def significant : (inComment : Bool) → List Char → Option Char
  | _, [] => none
  | inComment, c :: cs =>
    if isBlank c then significant inComment cs
    else if !inComment && c = '#' then significant true cs
    else some c

/-- The character that counts behind the next one. -/
def peekSignificant : Parse (Option Char) := do
  let r ← get
  return if r.verbose then significant false r.rest.tail else r.rest[1]?

/-! ## Numbers -/

/-- Passes digits; they may have blanks between them if blanks are passed over. -/
def readDigits : (fuel : Nat) → Parse (List Char)
  | 0 => return []
  | fuel + 1 => do
    match ← peek with
    | some c =>
      if c.isDigit then
        discard advance
        return c :: (← readDigits fuel)
      else return []
    | none => return []

/-- Passes blanks. -/
def passBlanks (between : Parse Unit) : (fuel : Nat) → Parse Unit
  | 0 => return ()
  | fuel + 1 => do
    match ← peek with
    | some c =>
      if isBlank c then
        bump
        between
        passBlanks between fuel
      else return ()
    | none => return ()

/-- The least number that is too large for a count. -/
def countLimit : Nat := pow2 32

/-- How many characters are left. -/
def remaining : Parse Nat := do return (← get).rest.length

/-- The number of a repetition.  That there is none is told, for it may be no fault
yet. -/
def readCount : Parse (Except Fault Nat) := do
  passBlanks (pure ()) (← remaining)
  let start ← place
  let digits ← readDigits (← remaining)
  let span ← since start
  passBlanks skipSpace (← remaining)
  if digits.isEmpty then return .error ⟨.countEmpty, span, none⟩
  else if numberOf digits < countLimit then return .ok (numberOf digits)
  else return .error ⟨.decimalTooLarge, span, none⟩

/-- The value of a hexadecimal digit. -/
def hexValue? (c : Char) : Option Nat :=
  if c.isDigit then some (c.toNat - '0'.toNat)
  else if 'a' ≤ c && c ≤ 'f' then some (c.toNat - 'a'.toNat + 10)
  else if 'A' ≤ c && c ≤ 'F' then some (c.toNat - 'A'.toNat + 10)
  else none

/-- The character of a number, if there is one. -/
def character? (n : Nat) : Option Char := if n.isValidChar then some (Char.ofNat n) else none

/-- So many hexadecimal digits. -/
def readHexDigits : (count : Nat) → (value : Nat) → Parse Nat
  | 0, value => return value
  | count + 1, value => do
    match (← peek).bind hexValue? with
    | none => refuse .hexDigit (← nextSpan) none
    | some d =>
      let more ← advance
      if count = 0 || more then readHexDigits count (value * 16 + d)
      else refuse .escapeEnd (← here) none

/-- Hexadecimal digits up to a closing brace. -/
def readHexUntilBrace : (fuel : Nat) → Parse (List Nat)
  | 0 => return []
  | fuel + 1 => do
    match ← peek with
    | none | some '}' => return []
    | some c =>
      match hexValue? c with
      | none => refuse .hexDigit (← nextSpan) none
      | some d =>
        discard advance
        return d :: (← readHexUntilBrace fuel)

/-- A character by its number in braces. -/
def readHexBrace : Parse Char := do
  let brace ← place
  discard advance
  let start : Place := brace.after '\x7b'
  let digits ← readHexUntilBrace (← remaining)
  if ← atEnd then refuse .escapeEnd (← since brace) none
  else
    let inner ← since start
    discard advance
    if digits.isEmpty then refuse .hexEmpty (← since brace) none
    else
      match character? (digits.foldl (fun n d => n * 16 + d) 0) with
      | some c => return c
      | none => refuse .hexNoCharacter inner none

/-- A character by its number; `count` digits, unless they stand in braces.  The answer
says whether they did not. -/
def readHex (count : Nat) : Parse (Char × Bool) := do
  if ← advance then
    if (← peek) == some '\x7b' then return (← readHexBrace, false)
    else
      let start ← place
      let n ← readHexDigits count 0
      match character? n with
      | some c => return (c, true)
      | none => refuse .hexNoCharacter (← since start) none
  else refuse .escapeEnd (← here) none

end ActionTree.Pattern
