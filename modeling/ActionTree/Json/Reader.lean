import ActionTree.Json.Fault
import ActionTree.Value

/-!
# ActionTree.Json.Reader

JSON text to values.

1. a reader takes the characters in front of it and gives a value with the
   characters after it, or the first fault;
2. lists and records may stand inside one another to a depth of 127;
3. an integer that fits 64 bits stays an integer, `-0` and every other number
   become doubles;
4. the digits of a double are taken as one integer of at most 64 bits, and that
   integer is multiplied or divided by a power of ten: two roundings, so the
   result can be a neighbour of the nearest double;
5. of entries with one key the last value counts, at the place of the first.

The loops over items and entries are bounded by the number of characters in
front of them.  Every round takes at least one, so the bound never shows.
-/

namespace ActionTree.Json

open Text

/-! ## Blanks and words -/

/-- The blanks between the tokens. -/
def isBlank (c : Char) : Bool := c = ' ' || c = '\n' || c = '\t' || c = '\r'

/-- The characters from the next token on. -/
def skip (cs : List Char) : List Char := cs.dropWhile isBlank

/-- The rest of a word whose first letter was seen. -/
def readWord : (word : List Char) → List Char → Reading Unit
  | [], cs => .ok ((), cs)
  | _ :: _, [] => fault .endInValue []
  | w :: ws, c :: cs => if w = c then readWord ws cs else faultAt .expectedWord (c :: cs)

/-! ## Numbers -/

/-- The greatest integer that the digits of a number are collected in. -/
def digitLimit : Nat := pow2 64 - 1

/-- Digits appended to a number as long as it stays within the limit; the
digits that did not fit are the second part. -/
def absorb : Nat → List Char → Nat × List Char
  | n, [] => (n, [])
  | n, c :: cs =>
    let m := Nat.ofDigitChars 10 [c] n
    if m ≤ digitLimit then absorb m cs else (n, c :: cs)

/-- A double divided by `10 ^ 308` until the power that is left is in the
table's range; a double that has become zero stays zero. -/
def divideDown : (fuel : Nat) → Finite → (power : Nat) → Double
  | 0, x, _ => .finite x
  | fuel + 1, x, power =>
    let by10 (k : Nat) : Double :=
      match Double.ofRatio false (pow10 k) 1 with
      | .finite y => x.quotient y
      | d => d
    if power ≤ 308 then by10 power
    else if x.isZero then .finite x
    else
      match by10 308 with
      | .finite y => divideDown fuel y (power - 308)
      | d => d

/-- An integer times a power of ten; `none` when that is too large. -/
def scaleTen (n : Nat) (power : Int) : Option Finite :=
  match Double.ofInt n with
  | .finite x =>
    let d : Double :=
      if power < 0 then divideDown 4 x power.natAbs
      else if x.isZero then .finite x
      else if power ≤ 308 then
        match Double.ofRatio false (pow10 power.toNat) 1 with
        | .finite y => x.times y
        | d => d
      else .infinite false
    match d with
    | .finite y => some y
    | _ => none
  | _ => none

/-- The double of collected digits and a power of ten. -/
def readScaled (negative : Bool) (n : Nat) (power : Int) (rest : List Char) :
    Reading Number :=
  match scaleTen n power with
  | some x => .ok (.real { x with negative := negative }, rest)
  | none => fault .numberOutOfRange rest

/-- The greatest exponent that is read as a number. -/
def exponentLimit : Nat := pow2 31 - 1

/-- The digits of an exponent as long as they stay within the limit, and the
characters from the digit on that did not fit. -/
def absorbExponent : Nat → List Char → Nat × List Char
  | n, [] => (n, [])
  | n, c :: cs =>
    if c.isDigit then
      let m := Nat.ofDigitChars 10 [c] n
      if m ≤ exponentLimit then absorbExponent m cs else (n, c :: cs)
    else (n, c :: cs)

/-- The exponent behind its mark, and with it the number. -/
def readPower (negative : Bool) (n : Nat) (power : Int) (cs : List Char) : Reading Number :=
  let (down, cs) := match cs with
    | '+' :: r => (false, r)
    | '-' :: r => (true, r)
    | r => (false, r)
  match cs with
  | [] => fault .endInValue []
  | c :: _ =>
    if c.isDigit then
      match absorbExponent 0 cs with
      | (e, d :: r) =>
        if d.isDigit then
          if n ≠ 0 && !down then fault .numberOutOfRange r
          else .ok (.real (Finite.zero negative), r.dropWhile Char.isDigit)
        else readScaled negative n (if down then power - e else power + e) (d :: r)
      | (e, []) => readScaled negative n (if down then power - e else power + e) []
    else faultAt .invalidNumber cs

/-- The fraction behind its point, and with it the number. -/
def readFraction (negative : Bool) (n : Nat) (power : Int) (cs : List Char) :
    Reading Number :=
  let digits := cs.takeWhile Char.isDigit
  let rest := cs.dropWhile Char.isDigit
  if digits.isEmpty then
    match rest with
    | [] => fault .endInValue []
    | _ => faultAt .invalidNumber rest
  else
    let (m, left) := absorb n digits
    let power := power - (digits.length - left.length : Nat)
    match rest with
    | 'e' :: r | 'E' :: r => readPower negative m power r
    | _ => readScaled negative m power rest

/-- The integer whose digits all fitted: within 64 bits an integer, otherwise
the nearest double. -/
def wholeNumber (negative : Bool) (n : Nat) : Number :=
  if negative then
    if n = 0 || n > pow2 63 then
      match Double.ofInt n with
      | .finite x => .real { x with negative := true }
      | _ => .integer (-n)
    else .integer (-n)
  else .integer n

/-- What follows the whole part of a number, and with it the number. -/
def readTail (negative : Bool) (n power : Nat) (rest : List Char) : Reading Number :=
  match rest with
  | '.' :: r => readFraction negative n power r
  | 'e' :: r | 'E' :: r => readPower negative n power r
  | _ =>
    if power = 0 then .ok (wholeNumber negative n, rest)
    else readScaled negative n power rest

/-- A number after its sign. -/
def readNumber (negative : Bool) (cs : List Char) : Reading Number :=
  match cs with
  | [] => fault .endInValue []
  | '0' :: r =>
    match r with
    | c :: _ => if c.isDigit then faultAt .invalidNumber r else readTail negative 0 0 r
    | [] => readTail negative 0 0 r
  | c :: _ =>
    if c.isDigit then
      let (n, left) := absorb 0 (cs.takeWhile Char.isDigit)
      readTail negative n left.length (cs.dropWhile Char.isDigit)
    else faultAt .invalidNumber cs

/-! ## Texts -/

/-- The value of a hexadecimal digit. -/
def hexValue? (c : Char) : Option Nat :=
  if c.isDigit then some (c.toNat - '0'.toNat)
  else if 'a' ≤ c && c ≤ 'f' then some (c.toNat - 'a'.toNat + 10)
  else if 'A' ≤ c && c ≤ 'F' then some (c.toNat - 'A'.toNat + 10)
  else none

/-- Four hexadecimal digits. -/
def readHex (cs : List Char) : Reading Nat :=
  match cs with
  | a :: b :: c :: d :: rest =>
    match hexValue? a, hexValue? b, hexValue? c, hexValue? d with
    | some a, some b, some c, some d => .ok (((a * 16 + b) * 16 + c) * 16 + d, rest)
    | _, _, _, _ => .error ⟨.invalidEscape, sizeOfChars cs - 4⟩
  | _ =>
    if sizeOfChars cs < 4 then fault .endInText []
    else .error ⟨.invalidEscape, sizeOfChars cs - 4⟩

/-- The second half of a pair of escapes whose first half was `high`. -/
def readLowHalf (high : Nat) (cs : List Char) : Reading Char :=
  match cs with
  | [] | ['\\'] => fault .endInText []
  | '\\' :: 'u' :: r =>
    match readHex r with
    | .error f => .error f
    | .ok (low, r) =>
      if 0xDC00 ≤ low && low ≤ 0xDFFF then
        .ok (Char.ofNat ((high - 0xD800) * 1024 + (low - 0xDC00) + 0x10000), r)
      else fault .loneSurrogate r
  | '\\' :: r => faultAt .shortEscape r
  | r => faultAt .shortEscape r

/-- A character written by its number. -/
def readCodeUnit (cs : List Char) : Reading Char :=
  match readHex cs with
  | .error f => .error f
  | .ok (n, r) =>
    if 0xDC00 ≤ n && n ≤ 0xDFFF then fault .loneSurrogate r
    else if 0xD800 ≤ n && n ≤ 0xDBFF then readLowHalf n r
    else .ok (Char.ofNat n, r)

/-- What stands behind a backslash. -/
def readEscape (cs : List Char) : Reading Char :=
  match cs with
  | [] => fault .endInText []
  | '"' :: r => .ok ('"', r)
  | '\\' :: r => .ok ('\\', r)
  | '/' :: r => .ok ('/', r)
  | 'b' :: r => .ok ('\x08', r)
  | 'f' :: r => .ok ('\x0c', r)
  | 'n' :: r => .ok ('\n', r)
  | 'r' :: r => .ok ('\r', r)
  | 't' :: r => .ok ('\t', r)
  | 'u' :: r => readCodeUnit r
  | r => faultAt .invalidEscape r

/-- The characters of a text up to its closing quote; `fuel` is at least the
number of characters in front. -/
def readChars : (fuel : Nat) → List Char → Reading (List Char)
  | 0, cs => fault .endInText cs
  | fuel + 1, cs =>
    match cs with
    | [] => fault .endInText []
    | '"' :: r => .ok ([], r)
    | '\\' :: r =>
      match readEscape r with
      | .error f => .error f
      | .ok (c, r) =>
        match readChars fuel r with
        | .error f => .error f
        | .ok (s, r) => .ok (c :: s, r)
    | c :: r =>
      if c.toNat < 0x20 then fault .controlCharacter r
      else
        match readChars fuel r with
        | .error f => .error f
        | .ok (s, r) => .ok (c :: s, r)

/-- A text behind its opening quote. -/
def readText (cs : List Char) : Reading String :=
  match readChars (cs.length + 1) cs with
  | .error f => .error f
  | .ok (s, r) => .ok (String.ofList s, r)

/-! ## Lists and records -/

/-- The items behind an item, up to the closing bracket. -/
def readMoreItems {α : Type} (item : List Char → Reading α) :
    (fuel : Nat) → List Char → Reading (List α)
  | 0, cs => fault .endInList cs
  | fuel + 1, cs =>
    match skip cs with
    | [] => fault .endInList []
    | ']' :: r => .ok ([], r)
    | ',' :: r =>
      match skip r with
      | [] => fault .endInValue []
      | r =>
        if r.head? = some ']' then faultAt .trailingComma r
        else
          match item r with
          | .error f => .error f
          | .ok (v, r) =>
            match readMoreItems item fuel r with
            | .error f => .error f
            | .ok (vs, r) => .ok (v :: vs, r)
    | r => faultAt .expectedListEnd r

/-- The items of a list behind its opening bracket. -/
def readItems {α : Type} (item : List Char → Reading α) (cs : List Char) :
    Reading (List α) :=
  match skip cs with
  | [] => fault .endInList []
  | ']' :: r => .ok ([], r)
  | r =>
    match item r with
    | .error f => .error f
    | .ok (v, r) =>
      match readMoreItems item (r.length + 1) r with
      | .error f => .error f
      | .ok (vs, r) => .ok (v :: vs, r)

/-- The colon between a key and its value. -/
def readColon (cs : List Char) : Reading Unit :=
  match skip cs with
  | [] => fault .endInRecord []
  | ':' :: r => .ok ((), r)
  | r => faultAt .expectedColon r

/-- An entry behind the quote that opens its key. -/
def readEntry {α : Type} (value : List Char → Reading α) (cs : List Char) :
    Reading (String × α) :=
  match readText cs with
  | .error f => .error f
  | .ok (k, r) =>
    match readColon r with
    | .error f => .error f
    | .ok (_, r) =>
      match value r with
      | .error f => .error f
      | .ok (v, r) => .ok ((k, v), r)

/-- The entries behind an entry, up to the closing brace. -/
def readMoreEntries {α : Type} (value : List Char → Reading α) :
    (fuel : Nat) → List Char → Reading (List (String × α))
  | 0, cs => fault .endInRecord cs
  | fuel + 1, cs =>
    match skip cs with
    | [] => fault .endInRecord []
    | '}' :: r => .ok ([], r)
    | ',' :: r =>
      match skip r with
      | [] => fault .endInValue []
      | '"' :: r =>
        match readEntry value r with
        | .error f => .error f
        | .ok (e, r) =>
          match readMoreEntries value fuel r with
          | .error f => .error f
          | .ok (es, r) => .ok (e :: es, r)
      | '}' :: r => faultAt .trailingComma ('}' :: r)
      | r => faultAt .keyNotText r
    | r => faultAt .expectedRecordEnd r

/-- The entries of a record behind its opening brace. -/
def readEntries {α : Type} (value : List Char → Reading α) (cs : List Char) :
    Reading (List (String × α)) :=
  match skip cs with
  | [] => fault .endInRecord []
  | '}' :: r => .ok ([], r)
  | '"' :: r =>
    match readEntry value r with
    | .error f => .error f
    | .ok (e, r) =>
      match readMoreEntries value (r.length + 1) r with
      | .error f => .error f
      | .ok (es, r) => .ok (e :: es, r)
  | r => faultAt .keyNotText r

/-! ## Values -/

/-- The greatest depth of lists and records. -/
def maxDepth : Nat := 127

/-- A value; `depth` more lists and records may be opened. -/
def readValue : (depth : Nat) → List Char → Reading Value
  | depth, cs =>
    match skip cs with
    | [] => fault .endInValue []
    | 'n' :: r =>
      match readWord ['u', 'l', 'l'] r with
      | .error f => .error f
      | .ok (_, r) => .ok (.null, r)
    | 't' :: r =>
      match readWord ['r', 'u', 'e'] r with
      | .error f => .error f
      | .ok (_, r) => .ok (.boolean true, r)
    | 'f' :: r =>
      match readWord ['a', 'l', 's', 'e'] r with
      | .error f => .error f
      | .ok (_, r) => .ok (.boolean false, r)
    | '-' :: r =>
      match readNumber true r with
      | .error f => .error f
      | .ok (n, r) => .ok (.number n, r)
    | '"' :: r =>
      match readText r with
      | .error f => .error f
      | .ok (s, r) => .ok (.text s, r)
    | '[' :: r =>
      match depth with
      | 0 => faultAt .tooDeep ('[' :: r)
      | depth + 1 =>
        match readItems (readValue depth) r with
        | .error f => .error f
        | .ok (vs, r) => .ok (.list vs, r)
    | '{' :: r =>
      match depth with
      | 0 => faultAt .tooDeep ('{' :: r)
      | depth + 1 =>
        match readEntries (readValue depth) r with
        | .error f => .error f
        | .ok (es, r) => .ok (.record (Record.merge [] es), r)
    | c :: r =>
      if c.isDigit then
        match readNumber false (c :: r) with
        | .error f => .error f
        | .ok (n, r) => .ok (.number n, r)
      else faultAt .expectedValue (c :: r)

/-- Nothing but blanks. -/
def readEnd (cs : List Char) : Except Fault Unit :=
  match skip cs with
  | [] => .ok ()
  | r => faultAt .trailingCharacters r

/-- The value of a whole text. -/
def read (source : List Char) : Except Fault Value :=
  match readValue maxDepth source with
  | .error f => .error f
  | .ok (v, r) =>
    match readEnd r with
    | .error f => .error f
    | .ok _ => .ok v

/-- The value of a whole text, or the wording of what is wrong with it. -/
def readString (s : String) : Except String Value :=
  match read s.toList with
  | .ok v => .ok v
  | .error f => .error (f.message s.toList)

end ActionTree.Json
