import ActionTree.Markup.Fault
import ActionTree.Text.Utf8
import ActionTree.Word

/-!
# ActionTree.Markup.Reference

Characters written by reference.

1. five characters have names; every character but the zero has a number,
   written in base ten or, behind an `x`, in base sixteen;
2. a reference runs from `&` to the next `;`, and no other `&` stands in
   between;
3. `escape` writes the five named characters by name wherever they stand, so
   what it writes can stand in a text and between quotes of either kind.
-/

namespace ActionTree.Markup

open Text

/-! ## Writing -/

/-- A character as it is written in a text or a value. -/
def escapeChar (c : Char) : List Char :=
  if c = '<' then ['&', 'l', 't', ';']
  else if c = '>' then ['&', 'g', 't', ';']
  else if c = '&' then ['&', 'a', 'm', 'p', ';']
  else if c = '\'' then ['&', 'a', 'p', 'o', 's', ';']
  else if c = '"' then ['&', 'q', 'u', 'o', 't', ';']
  else [c]

/-- Characters as they are written in a text or a value. -/
def escape (cs : List Char) : List Char := cs.flatMap escapeChar

/-! ## Numbers -/

/-- The value of a digit in a base up to sixteen. -/
def digitIn (base : Nat) (c : Char) : Option Nat :=
  let n :=
    if c.isDigit then some (c.toNat - '0'.toNat)
    else if 'a' ≤ c && c ≤ 'f' then some (c.toNat - 'a'.toNat + 10)
    else if 'A' ≤ c && c ≤ 'F' then some (c.toNat - 'A'.toNat + 10)
    else none
  n.filter (· < base)

/-- A number of at most 32 bits, its first digits already read. -/
def numberFrom (base n : Nat) : List Char → Except NumberFault Nat
  | [] => .ok n
  | c :: cs =>
    match digitIn base c with
    | none => .error .digit
    | some d => if fitsBits 32 (n * base + d) then numberFrom base (n * base + d) cs else .error .tooLarge

/-- A number of at most 32 bits without a sign. -/
def number (base : Nat) (cs : List Char) : Except NumberFault Nat :=
  match cs with
  | [] => .error .empty
  | '+' :: _ | '-' :: _ => .error .sign
  | cs => numberFrom base 0 cs

/-- The character of a number. -/
def charOfNumber (n : Nat) : Except NumberFault Char :=
  if n = 0 then .error .zero
  else if n < 0xD800 || (0xE000 ≤ n && n < 0x110000) then .ok (Char.ofNat n)
  else .error (.notCharacter n)

/-- The character that the number behind `#` writes. -/
def charOfReference (cs : List Char) : Except NumberFault Char :=
  match cs with
  | 'x' :: hex => (number 16 hex).bind charOfNumber
  | cs => (number 10 cs).bind charOfNumber

/-! ## Reading -/

/-- The character of a name. -/
def namedChar? (name : List Char) : Option Char :=
  if name = ['l', 't'] then some '<'
  else if name = ['g', 't'] then some '>'
  else if name = ['a', 'm', 'p'] then some '&'
  else if name = ['a', 'p', 'o', 's'] then some '\''
  else if name = ['q', 'u', 'o', 't'] then some '"'
  else none

/-- The characters up to the next `;` and those behind it; `none` if another
`&` or the end comes first. -/
def upToEnd : List Char → Option (List Char × List Char)
  | [] => none
  | c :: cs =>
    if c = ';' then some ([], cs)
    else if c = '&' then none
    else (upToEnd cs).map fun (name, rest) => (c :: name, rest)

theorem upToEnd_length {cs name rest : List Char} (h : upToEnd cs = some (name, rest)) :
    rest.length < cs.length := by
  induction cs generalizing name with
  | nil => simp [upToEnd] at h
  | cons c cs ih =>
    unfold upToEnd at h
    split at h
    · simp only [Option.some.injEq, Prod.mk.injEq] at h
      simp [← h.2]
    · split at h
      · simp at h
      · simp only [Option.map_eq_some_iff, Prod.mk.injEq, Prod.exists] at h
        obtain ⟨x, y, hxy, _, rfl⟩ := h
        have := ih hxy
        simp only [List.length_cons]
        omega

/-- The character that a reference of a name stands for; its `&` is at byte
`start`. -/
def referencedChar (start : Nat) (name : List Char) : Except Fault Char :=
  match name with
  | '#' :: digits =>
    match charOfReference digits with
    | .error f => .error (.badNumber f)
    | .ok d => .ok d
  | name =>
    match namedChar? name with
    | none => .error (.unknownReference (start + 1) (start + 1 + sizeOfChars name) (String.ofList name))
    | some d => .ok d

/-- The characters that a raw text writes, `start` bytes of `stop` behind it. -/
def unescapeFrom (start stop : Nat) (cs : List Char) : Except Fault (List Char) :=
  match cs with
  | [] => .ok []
  | c :: rest =>
    if c = '&' then
      match _h : upToEnd rest with
      | none => .error (.openReference start stop)
      | some (name, after) =>
        match referencedChar start name with
        | .error f => .error f
        | .ok d => (unescapeFrom (start + 2 + sizeOfChars name) stop after).map (d :: ·)
    else (unescapeFrom (start + c.utf8Size) stop rest).map (c :: ·)
termination_by cs.length
decreasing_by
  · exact Nat.lt_succ_of_lt (upToEnd_length ‹upToEnd rest = some (name, after)›)
  · exact Nat.lt_succ_self _

/-- The characters that a raw text writes. -/
def unescape (cs : List Char) : Except Fault (List Char) := unescapeFrom 0 (sizeOfChars cs) cs

end ActionTree.Markup
