/-!
# ActionTree.Text.Utf8

Texts as bytes.

1. sizes and positions that are shown count UTF-8 bytes, not characters;
2. bytes from outside need not be UTF-8: `decode?` refuses such bytes, `decode`
   puts a replacement character for every maximal piece of a broken sequence;
3. a sequence is broken by a byte that cannot follow: continuation bytes have a
   range of their own after the leading bytes that could otherwise write a
   surrogate, a number beyond the last code point or a form too long.
-/

namespace ActionTree.Text

/-! ## Sizes -/

/-- How many bytes a list of characters takes. -/
def sizeOfChars : List Char → Nat
  | [] => 0
  | c :: cs => c.utf8Size + sizeOfChars cs

/-- How many bytes a text takes. -/
def size (s : String) : Nat := s.utf8ByteSize

theorem sizeOfChars_append (a b : List Char) :
    sizeOfChars (a ++ b) = sizeOfChars a + sizeOfChars b := by
  induction a with
  | nil => simp [sizeOfChars]
  | cons c a ih => simp [sizeOfChars, ih, Nat.add_assoc]

/-! ## Bytes of a text -/

/-- The bytes of a text. -/
def encode (s : String) : List UInt8 := s.toUTF8.data.toList

/-! ## Texts of bytes -/

/-- What stands for a piece that is not UTF-8. -/
def replacement : Char := '\uFFFD'

/-- A byte that may continue a sequence. -/
def isTail (b : UInt8) : Bool := 0x80 ≤ b && b ≤ 0xBF

/-- The bytes that may come second after a leading byte of three or four. -/
def isSecond (lead b : UInt8) : Bool :=
  if lead = 0xE0 then 0xA0 ≤ b && b ≤ 0xBF
  else if lead = 0xED then 0x80 ≤ b && b ≤ 0x9F
  else if lead = 0xF0 then 0x90 ≤ b && b ≤ 0xBF
  else if lead = 0xF4 then 0x80 ≤ b && b ≤ 0x8F
  else isTail b

/-- The six bits of a continuation byte. -/
def low6 (b : UInt8) : Nat := b.toNat % 64

/-- The first character of a list of bytes and the bytes after it; `none` for
the character marks a piece that is not UTF-8. -/
def step (b : UInt8) (bs : List UInt8) : Option Char × List UInt8 :=
  if b < 0x80 then (some (Char.ofNat b.toNat), bs)
  else if 0xC2 ≤ b && b ≤ 0xDF then
    match bs with
    | c :: r =>
      if isTail c then (some (Char.ofNat (b.toNat % 32 * 64 + low6 c)), r) else (none, bs)
    | [] => (none, [])
  else if 0xE0 ≤ b && b ≤ 0xEF then
    match bs with
    | c :: r =>
      if isSecond b c then
        match r with
        | d :: r' =>
          if isTail d then
            (some (Char.ofNat (b.toNat % 16 * 4096 + low6 c * 64 + low6 d)), r')
          else (none, r)
        | [] => (none, [])
      else (none, bs)
    | [] => (none, [])
  else if 0xF0 ≤ b && b ≤ 0xF4 then
    match bs with
    | c :: r =>
      if isSecond b c then
        match r with
        | d :: r' =>
          if isTail d then
            match r' with
            | e :: r'' =>
              if isTail e then
                (some (Char.ofNat
                  (b.toNat % 8 * 262144 + low6 c * 4096 + low6 d * 64 + low6 e)), r'')
              else (none, r')
            | [] => (none, [])
          else (none, r)
        | [] => (none, [])
      else (none, bs)
    | [] => (none, [])
  else (none, bs)

theorem step_length_le (b : UInt8) (bs : List UInt8) : (step b bs).2.length ≤ bs.length := by
  unfold step
  repeat' split
  all_goals simp_all <;> omega

/-- The characters of a list of bytes, a broken piece as `none`. -/
def decodeSteps : List UInt8 → List (Option Char)
  | [] => []
  | b :: bs => (step b bs).1 :: decodeSteps (step b bs).2
termination_by bs => bs.length
decreasing_by
  have := step_length_le b bs
  simp only [List.length_cons]
  omega

/-- The characters of a list of bytes, every byte of a broken piece as `none`. -/
def decodeEach : List UInt8 → List (Option Char)
  | [] => []
  | b :: bs =>
    match (step b bs).1 with
    | some c => some c :: decodeEach (step b bs).2
    | none => none :: decodeEach bs
termination_by bs => bs.length
decreasing_by
  · have := step_length_le b bs
    simp only [List.length_cons]
    omega
  · simp

/-- The text of UTF-8 bytes; `none` when some piece is not UTF-8. -/
def decode? (bs : List UInt8) : Option String :=
  ((decodeSteps bs).mapM id).map String.ofList

/-- The text of any bytes, with `replacement` for every broken piece. -/
def decode (bs : List UInt8) : String :=
  String.ofList ((decodeSteps bs).map fun c => c.getD replacement)

end ActionTree.Text
