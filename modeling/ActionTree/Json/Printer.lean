import ActionTree.Value

/-!
# ActionTree.Json.Printer

Values as JSON text.

1. the compact form has no blanks and keeps the order of entries;
2. the wide form puts every item and entry on a line of its own, two spaces in
   for every level, and leaves empty containers on their line;
3. in a text the quote, the backslash and the controls below the space are
   escaped, five of the controls by a letter and the others by four hexadecimal
   digits; every other character stands for itself.

A printer takes what follows as its last argument and puts its own output in
front, so that output is never copied, and the reader's laws read
`read (write v rest) = (v, rest)`.
-/

namespace ActionTree.Json

/-! ## Texts -/

/-- A lower-case hexadecimal digit. -/
def hexDigit (n : Nat) : Char := Nat.digitChar n

/-- One character inside a quoted text. -/
def escapeChar (c : Char) : List Char :=
  if c = '"' then ['\\', '"']
  else if c = '\\' then ['\\', '\\']
  else if c = '\x08' then ['\\', 'b']
  else if c = '\x0c' then ['\\', 'f']
  else if c = '\n' then ['\\', 'n']
  else if c = '\r' then ['\\', 'r']
  else if c = '\t' then ['\\', 't']
  else if c.toNat < 0x20 then
    ['\\', 'u', '0', '0', hexDigit (c.toNat / 16), hexDigit (c.toNat % 16)]
  else [c]

/-- The characters of a text and its closing quote, before `rest`. -/
def writeChars : List Char → List Char → List Char
  | [], rest => '"' :: rest
  | c :: cs, rest => escapeChar c ++ writeChars cs rest

/-- A quoted text before `rest`. -/
def writeText (s : String) (rest : List Char) : List Char := '"' :: writeChars s.toList rest

/-! ## Compact form -/

mutual

/-- A value in compact form before `rest`. -/
def write : Value → List Char → List Char
  | .null, rest => 'n' :: 'u' :: 'l' :: 'l' :: rest
  | .boolean true, rest => 't' :: 'r' :: 'u' :: 'e' :: rest
  | .boolean false, rest => 'f' :: 'a' :: 'l' :: 's' :: 'e' :: rest
  | .number n, rest => n.chars ++ rest
  | .text s, rest => writeText s rest
  | .list vs, rest => '[' :: writeItems vs rest
  | .record es, rest => '{' :: writeEntries es rest
termination_by structural v => v

/-- The items of a list and its closing bracket before `rest`. -/
def writeItems : List Value → List Char → List Char
  | [], rest => ']' :: rest
  | v :: vs, rest => write v (writeMoreItems vs rest)
termination_by structural vs => vs

/-- The items after the first, each behind a comma. -/
def writeMoreItems : List Value → List Char → List Char
  | [], rest => ']' :: rest
  | v :: vs, rest => ',' :: write v (writeMoreItems vs rest)
termination_by structural vs => vs

/-- The entries of a record and its closing brace before `rest`. -/
def writeEntries : List (String × Value) → List Char → List Char
  | [], rest => '}' :: rest
  | (k, v) :: es, rest => writeText k (':' :: write v (writeMoreEntries es rest))
termination_by structural es => es

/-- The entries after the first, each behind a comma. -/
def writeMoreEntries : List (String × Value) → List Char → List Char
  | [], rest => '}' :: rest
  | (k, v) :: es, rest => ',' :: writeText k (':' :: write v (writeMoreEntries es rest))
termination_by structural es => es

end

/-! ### What is written of each form

Proofs cite these equations instead of unfolding the five functions, which is slow. -/

section Compact

variable (v : Value) (vs : List Value) (e : String × Value) (es : List (String × Value))
  (n : Number) (s : String) (rest : List Char)

theorem write_null : write .null rest = 'n' :: 'u' :: 'l' :: 'l' :: rest := rfl

theorem write_true : write (.boolean true) rest = 't' :: 'r' :: 'u' :: 'e' :: rest := rfl

theorem write_false : write (.boolean false) rest = 'f' :: 'a' :: 'l' :: 's' :: 'e' :: rest := rfl

theorem write_number : write (.number n) rest = n.chars ++ rest := rfl

theorem write_text : write (.text s) rest = writeText s rest := rfl

theorem write_list : write (.list vs) rest = '[' :: writeItems vs rest := rfl

theorem write_record : write (.record es) rest = '{' :: writeEntries es rest := rfl

theorem writeItems_nil : writeItems [] rest = ']' :: rest := rfl

theorem writeItems_cons : writeItems (v :: vs) rest = write v (writeMoreItems vs rest) := rfl

theorem writeMoreItems_nil : writeMoreItems [] rest = ']' :: rest := rfl

theorem writeMoreItems_cons :
    writeMoreItems (v :: vs) rest = ',' :: write v (writeMoreItems vs rest) := rfl

theorem writeEntries_cons : writeEntries (e :: es) rest =
    writeText e.1 (':' :: write e.2 (writeMoreEntries es rest)) := rfl

theorem writeMoreEntries_nil : writeMoreEntries [] rest = '}' :: rest := rfl

theorem writeMoreEntries_cons : writeMoreEntries (e :: es) rest =
    ',' :: writeText e.1 (':' :: write e.2 (writeMoreEntries es rest)) := rfl

end Compact

/-- A value in compact form. -/
def compact (v : Value) : String := String.ofList (write v [])

/-! ## Wide form -/

/-- A line break and the indentation of a level, before `rest`. -/
def newLine (level : Nat) (rest : List Char) : List Char :=
  '\n' :: (List.replicate (2 * level) ' ' ++ rest)

mutual

/-- A value in wide form at a level, before `rest`. -/
def writeWide (level : Nat) : Value → List Char → List Char
  | .list [], rest => '[' :: ']' :: rest
  | .list (v :: vs), rest =>
    '[' :: newLine (level + 1) (writeWide (level + 1) v (writeWideItems level vs rest))
  | .record [], rest => '{' :: '}' :: rest
  | .record ((k, v) :: es), rest =>
    '{' :: newLine (level + 1) (writeText k
      (':' :: ' ' :: writeWide (level + 1) v (writeWideEntries level es rest)))
  | .null, rest => write .null rest
  | .boolean b, rest => write (.boolean b) rest
  | .number n, rest => write (.number n) rest
  | .text s, rest => write (.text s) rest

/-- The items after the first, each on its line. -/
def writeWideItems (level : Nat) : List Value → List Char → List Char
  | [], rest => newLine level (']' :: rest)
  | v :: vs, rest =>
    ',' :: newLine (level + 1) (writeWide (level + 1) v (writeWideItems level vs rest))

/-- The entries after the first, each on its line. -/
def writeWideEntries (level : Nat) : List (String × Value) → List Char → List Char
  | [], rest => newLine level ('}' :: rest)
  | (k, v) :: es, rest =>
    ',' :: newLine (level + 1) (writeText k
      (':' :: ' ' :: writeWide (level + 1) v (writeWideEntries level es rest)))

end

/-- A value in wide form. -/
def wide (v : Value) : String := String.ofList (writeWide 0 v [])

end ActionTree.Json
