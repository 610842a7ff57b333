import ActionTree.Text.Utf8

/-!
# ActionTree.Proofs.Utf8

The bytes of a text are read back as that text.

1. the bytes of a text are those of its characters, one after another (`encode_eq`);
2. a step takes the bytes of one character off and gives that character
   (`step_utf8EncodeChar`), so what a text is encoded as is decoded to it
   (`decode?_encode`);
3. a byte below 0x80 stands for the character of its number, and is a part of no
   other one (`toNat_eq_of_mem_utf8EncodeChar`).
-/

namespace ActionTree.Text

open String (utf8EncodeChar)

theorem encode_eq (s : String) : encode s = s.toList.flatMap utf8EncodeChar := by
  have hs : s.toUTF8 = s.toList.utf8Encode := by
    rw [String.toUTF8_eq_toByteArray, ← String.toByteArray_ofList, String.ofList_toList]
  rw [encode, hs, List.utf8Encode]
  simp

/-! ## One character -/

theorem toNat_ofNat {n : Nat} (hn : n < 256) : (UInt8.ofNat n).toNat = n := by
  rw [UInt8.toNat_ofNat', Nat.mod_eq_of_lt hn]

/-- The bits of a byte that continues a sequence. -/
theorem low6_tail (n : Nat) : low6 (UInt8.ofNat (n % 64 + 128)) = n % 64 := by
  rw [low6, toNat_ofNat (by omega)]
  omega

theorem isTail_tail (n : Nat) : isTail (UInt8.ofNat (n % 64 + 128)) = true := by
  simp only [isTail, UInt8.le_iff_toNat_le, toNat_ofNat (show n % 64 + 128 < 256 by omega),
    Bool.and_eq_true, decide_eq_true_eq]
  exact ⟨Nat.le_add_left _ _, by change n % 64 + 128 ≤ 191; omega⟩

/-- The second byte of a sequence of three that writes no surrogate and nothing too
short. -/
theorem isSecond_three {n : Nat} (hlow : 2047 < n) (hhigh : n ≤ 65535)
    (hplain : n < 0xD800 ∨ 0xDFFF < n) :
    isSecond (UInt8.ofNat (n / 4096 % 16 + 224)) (UInt8.ofNat (n / 64 % 64 + 128)) = true := by
  simp only [isSecond, isTail, ← UInt8.toNat_inj, UInt8.le_iff_toNat_le,
    toNat_ofNat (show n / 64 % 64 + 128 < 256 by omega),
    toNat_ofNat (show n / 4096 % 16 + 224 < 256 by omega), UInt8.reduceToNat]
  repeat' split
  all_goals simp only [Bool.and_eq_true, decide_eq_true_eq]; omega

/-- The second byte of a sequence of four that writes a code point and nothing too
short. -/
theorem isSecond_four {n : Nat} (hlow : 65535 < n) (hhigh : n < 0x110000) :
    isSecond (UInt8.ofNat (n / 262144 % 8 + 240)) (UInt8.ofNat (n / 4096 % 64 + 128)) = true := by
  simp only [isSecond, isTail, ← UInt8.toNat_inj, UInt8.le_iff_toNat_le,
    toNat_ofNat (show n / 4096 % 64 + 128 < 256 by omega),
    toNat_ofNat (show n / 262144 % 8 + 240 < 256 by omega), UInt8.reduceToNat]
  repeat' split
  all_goals simp only [Bool.and_eq_true, decide_eq_true_eq]; omega

section Step

variable {n : Nat} (rest : List UInt8)

theorem step_one (hn : n ≤ 127) : step (UInt8.ofNat n) rest = (some (Char.ofNat n), rest) := by
  have hb : (UInt8.ofNat n).toNat = n := toNat_ofNat (by omega)
  simp only [step, UInt8.lt_iff_toNat_lt, hb, UInt8.reduceToNat]
  rw [if_pos (by omega)]

theorem step_two (hlow : 127 < n) (hhigh : n ≤ 2047) :
    step (UInt8.ofNat (n / 64 % 32 + 192)) (UInt8.ofNat (n % 64 + 128) :: rest) =
      (some (Char.ofNat n), rest) := by
  have hb : (UInt8.ofNat (n / 64 % 32 + 192)).toNat = n / 64 % 32 + 192 := toNat_ofNat (by omega)
  have hn : (n / 64 % 32 + 192) % 32 * 64 + n % 64 = n := by omega
  simp only [step, UInt8.lt_iff_toNat_lt, UInt8.le_iff_toNat_le, hb, UInt8.reduceToNat,
    isTail_tail, low6_tail, if_true, Bool.and_eq_true, decide_eq_true_eq, hn]
  rw [if_neg (by omega), if_pos (by omega)]

theorem step_three (hlow : 2047 < n) (hhigh : n ≤ 65535) (hplain : n < 0xD800 ∨ 0xDFFF < n) :
    step (UInt8.ofNat (n / 4096 % 16 + 224))
        (UInt8.ofNat (n / 64 % 64 + 128) :: UInt8.ofNat (n % 64 + 128) :: rest) =
      (some (Char.ofNat n), rest) := by
  have hb : (UInt8.ofNat (n / 4096 % 16 + 224)).toNat = n / 4096 % 16 + 224 :=
    toNat_ofNat (by omega)
  have hn : (n / 4096 % 16 + 224) % 16 * 4096 + n / 64 % 64 * 64 + n % 64 = n := by omega
  simp only [step, UInt8.lt_iff_toNat_lt, UInt8.le_iff_toNat_le, hb, UInt8.reduceToNat,
    isSecond_three hlow hhigh hplain, isTail_tail, low6_tail, if_true, Bool.and_eq_true,
    decide_eq_true_eq, hn]
  rw [if_neg (by omega), if_neg (by omega), if_pos (by omega)]

theorem step_four (hlow : 65535 < n) (hhigh : n < 0x110000) :
    step (UInt8.ofNat (n / 262144 % 8 + 240))
        (UInt8.ofNat (n / 4096 % 64 + 128) :: UInt8.ofNat (n / 64 % 64 + 128) ::
          UInt8.ofNat (n % 64 + 128) :: rest) =
      (some (Char.ofNat n), rest) := by
  have hb : (UInt8.ofNat (n / 262144 % 8 + 240)).toNat = n / 262144 % 8 + 240 :=
    toNat_ofNat (by omega)
  have hn : (n / 262144 % 8 + 240) % 8 * 262144 + n / 4096 % 64 * 4096 + n / 64 % 64 * 64 +
      n % 64 = n := by omega
  simp only [step, UInt8.lt_iff_toNat_lt, UInt8.le_iff_toNat_le, hb, UInt8.reduceToNat,
    isSecond_four hlow hhigh, isTail_tail, low6_tail, if_true, Bool.and_eq_true,
    decide_eq_true_eq, hn]
  rw [if_neg (by omega), if_neg (by omega), if_neg (by omega), if_pos (by omega)]

end Step

/-- A step takes the bytes of a character off, and gives the character. -/
theorem step_utf8EncodeChar (c : Char) :
    ∃ b bs, utf8EncodeChar c = b :: bs ∧ ∀ rest, step b (bs ++ rest) = (some c, rest) := by
  have hc : Char.ofNat c.val.toNat = c := Char.ofNat_toNat c
  have hvalid : c.val.toNat < 0xD800 ∨ 0xDFFF < c.val.toNat ∧ c.val.toNat < 0x110000 := c.valid
  rw [utf8EncodeChar]
  generalize c.val.toNat = n at hc hvalid ⊢
  subst hc
  split
  · next hn => exact ⟨_, [], rfl, fun rest => step_one rest hn⟩
  · next h1 =>
    split
    · next hn => exact ⟨_, [_], rfl, fun rest => step_two rest (by omega) hn⟩
    · next h2 =>
      split
      · next hn => exact ⟨_, [_, _], rfl, fun rest => step_three rest (by omega) hn (by omega)⟩
      · next h3 => exact ⟨_, [_, _, _], rfl, fun rest => step_four rest (by omega) (by omega)⟩

/-- A byte below 0x80 is a part of no character but the one of its number. -/
theorem toNat_eq_of_mem_utf8EncodeChar {c : Char} {b : UInt8} (hb : b ∈ utf8EncodeChar c)
    (hlow : b.toNat < 128) : c.toNat = b.toNat := by
  rw [utf8EncodeChar] at hb
  split at hb
  · next hn =>
    rw [List.mem_singleton.mp hb, toNat_ofNat (by omega)]
    rfl
  · -- every byte of a longer sequence is at least 0x80
    exfalso
    repeat' split at hb
    all_goals
      simp only [List.mem_cons, List.not_mem_nil, or_false] at hb
      rcases hb with rfl | rfl | rfl | rfl <;> rw [toNat_ofNat (by omega)] at hlow <;> omega

/-! ## All characters -/

theorem decodeSteps_flatMap (cs : List Char) :
    decodeSteps (cs.flatMap utf8EncodeChar) = cs.map some := by
  induction cs with
  | nil => rw [List.flatMap_nil, decodeSteps, List.map_nil]
  | cons c cs ih =>
    obtain ⟨b, bs, hbytes, hstep⟩ := step_utf8EncodeChar c
    rw [List.flatMap_cons, hbytes, List.cons_append, decodeSteps, hstep, ih, List.map_cons]

theorem decodeEach_flatMap (cs : List Char) :
    decodeEach (cs.flatMap utf8EncodeChar) = cs.map some := by
  induction cs with
  | nil => rw [List.flatMap_nil, decodeEach, List.map_nil]
  | cons c cs ih =>
    obtain ⟨b, bs, hbytes, hstep⟩ := step_utf8EncodeChar c
    rw [List.flatMap_cons, hbytes, List.cons_append, decodeEach, hstep]
    dsimp only
    rw [ih, List.map_cons]

/-- No byte of a text is a byte of no character. -/
theorem decodeEach_encode (s : String) : decodeEach (encode s) = s.toList.map some := by
  rw [encode_eq, decodeEach_flatMap]

/-- The bytes of a text are read back as that text. -/
theorem decode?_encode (s : String) : decode? (encode s) = some s := by
  have hall : (s.toList.map some).mapM id = some s.toList := by
    have hpure := List.mapM_pure (m := Option) (l := s.toList) (f := id)
    rw [List.map_id] at hpure
    rw [List.mapM_map]
    exact hpure
  rw [decode?, encode_eq, decodeSteps_flatMap, hall, Option.map_some, String.ofList_toList]

theorem encode_injective {s t : String} (h : encode s = encode t) : s = t := by
  have hs := decode?_encode s
  rw [h, decode?_encode t, Option.some.injEq] at hs
  exact hs.symm

/-- A byte below 0x80 in the bytes of a text is a character of the text. -/
theorem mem_of_mem_encode {s : String} {b : UInt8} (hb : b ∈ encode s) (hlow : b.toNat < 128) :
    Char.ofNat b.toNat ∈ s.toList := by
  rw [encode_eq, List.mem_flatMap] at hb
  obtain ⟨c, hc, hbytes⟩ := hb
  rwa [← toNat_eq_of_mem_utf8EncodeChar hbytes hlow, Char.ofNat_toNat]

end ActionTree.Text
