import ActionTree.Json.Fault

/-!
# ActionTree.Json.Bytes

Reading bytes that need not be UTF-8.

1. a byte of no character stands for nothing outside of a text, so a reader
   refuses it there as it refuses any other character;
2. a text that holds such a byte is refused as a whole when it is read: the place of the
   fault is behind its closing quote, and what is wrong before that place comes first;
3. a text that the reader skips may hold any bytes.

All follows from reading characters.  Every byte of no character is replaced by one
that is as wide, has no meaning outside of a text, and may stand in one.  Whether a text
is read or skipped shows when half a pair of escapes is put to its end: it disturbs a
reader only where the text is read.
-/

namespace ActionTree.Json

open Text

/-- What is read for a byte of no character. -/
def standIn : Char := '\x7f'

/-- The indices of the closing quotes of texts that hold a byte of no character, for
characters from an index on.  The state is `none` outside of texts, and inside of one it
says whether such a byte was seen. -/
def brokenTexts (index : Nat) : (seen : Option Bool) → List (Option Char) → List Nat
  | _, [] => []
  | none, c :: cs => brokenTexts (index + 1) (if c = some '"' then some false else none) cs
  | some seen, some '\\' :: c :: cs => brokenTexts (index + 2) (some (seen || c.isNone)) cs
  | some seen, some '"' :: cs =>
    if seen then index :: brokenTexts (index + 1) none cs else brokenTexts (index + 1) none cs
  | some seen, c :: cs => brokenTexts (index + 1) (some (seen || c.isNone)) cs

/-- Half a pair of escapes. -/
def halfPair : List Char := ['\\', 'u', 'd', 'c', '0', '0']

/-- Whether a result is a fault in front of the place with so many bytes left. -/
def failsBefore {α : Type} (left : Nat) : Except Fault α → Bool
  | .ok _ => false
  | .error f => left < f.left

/-- How many bytes are left behind the text that closes at an index, if the text is read. -/
def readAt? {α : Type} (read : List Char → Except Fault α) (source : List Char) (index : Nat) :
    Option Nat :=
  let left := sizeOfChars (source.drop (index + 1))
  let disturbed := source.take index ++ halfPair ++ source.drop index
  if !failsBefore left (read source) && failsBefore left (read disturbed) then some left else none

/-- What a reader makes of bytes, or the wording of what is wrong with them. -/
def readBytes {α : Type} (read : List Char → Except Fault α) (bytes : List UInt8) :
    Except String α :=
  let cs := decodeEach bytes
  let source := cs.map fun c => c.getD standIn
  let result : Except Fault α := match (brokenTexts 0 none cs).findSome? (readAt? read source) with
    | some left => .error ⟨.invalidCodePoint, left⟩
    | none => read source
  match result with
  | .ok a => .ok a
  | .error f => .error (f.message source)

end ActionTree.Json
