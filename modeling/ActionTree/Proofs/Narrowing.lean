import ActionTree.Proofs.IntegerAttributes
import ActionTree.Proofs.ShortestText

/-!
# ActionTree.Proofs.Narrowing

What a double comes to as a number of the data model.

1. a double that is an integer becomes that integer if 64 bits hold it; every other double stays as
   it is, except `2 ^ 63`, which is held to the greatest integer of 64 bits
   (`Value.ofDouble_cases`);
2. the text of what a double has become is read as the same double again, without the sign if it is
   a zero: an integer writes itself out (`ofInt_of_toRat_eq`, `ofInt_greatest`), and a double has
   its shortest text (`Finite.read_text`);
3. a text that is read as a finite double is one word of a condition, a constant
   (`Expr.word_of_read`), so all this holds of the numbers that conditions are written with.
-/

namespace ActionTree

open Text

/-- The number that a number of the data model is. -/
def Number.toRat : Number → ℚ
  | integer n => n
  | real x => x.toRat

/-! ## Whole doubles -/

namespace Finite

variable {x : Finite} {n : Int}

theorem magnitude_eq_abs (x : Finite) : x.magnitude = |x.toRat| := by
  rw [toRat]
  split
  · rw [abs_neg, abs_of_nonneg x.magnitude_nonneg]
  · rw [abs_of_nonneg x.magnitude_nonneg]

theorem negative_eq (hpos : 0 < x.mantissa) : x.negative = decide (x.toRat < 0) := by
  have hmagnitude := magnitude_pos hpos
  rw [toRat]
  cases x.negative <;> simp [hmagnitude, hmagnitude.le]

theorem toRat_eq_zero (h : x.isZero = true) : x.toRat = 0 := by
  have hmantissa : x.mantissa = 0 := by simpa [isZero] using h
  simp [toRat, magnitude, hmantissa]

theorem toRat_eq_truncate (h : x.isWhole = true) : x.toRat = x.truncate := by
  have hmod : x.num % x.den = 0 := beq_iff_eq.mp h
  have hmagnitude : x.magnitude = (x.num / x.den : Nat) := by
    rw [magnitude_eq_div,
      Nat.cast_div (Nat.dvd_of_mod_eq_zero hmod) (by exact_mod_cast x.den_pos.ne')]
  rw [toRat, truncate, hmagnitude]
  split
  · rw [Int.cast_neg, Int.cast_natCast]
  · rw [Int.cast_natCast]

theorem isWhole_of_toRat_eq (h : x.toRat = n) : x.isWhole = true := by
  have hmagnitude : x.magnitude = n.natAbs := by
    rw [magnitude_eq_abs, h, Nat.cast_natAbs, Int.cast_abs]
  have hden : (x.den : ℚ) ≠ 0 := by exact_mod_cast x.den_pos.ne'
  rw [magnitude_eq_div, div_eq_iff hden] at hmagnitude
  have hnum : x.num = n.natAbs * x.den := by exact_mod_cast hmagnitude
  simp [isWhole, hnum]

end Finite

/-- A double becomes the integer that it is, if 64 bits hold it; `2 ^ 63` becomes the greatest
integer that they hold; every other double stays. -/
theorem Value.ofDouble_cases (x : Finite) :
    (∃ n : Int, fitsInt64 n = true ∧ x.toRat = n ∧ ofDouble (.finite x) = .number (.integer n)) ∨
      (x.toRat = 2 ^ 63 ∧ ofDouble (.finite x) = .number (.integer greatestInt64)) ∨
      (x.toRat ≠ 2 ^ 63 ∧ (∀ n : Int, fitsInt64 n = true → x.toRat ≠ n) ∧
        ofDouble (.finite x) = .number (.real x)) := by
  simp only [ofDouble, Bool.and_eq_true, decide_eq_true_eq, fitsInt64_iff]
  split
  · next hrange =>
    obtain ⟨⟨hwhole, hleast⟩, hgreatest⟩ := hrange
    have hvalue := x.toRat_eq_truncate hwhole
    rcases Int.lt_or_le greatestInt64 x.truncate with hlt | hle
    · have hend : x.truncate = greatestInt64 + 1 := by omega
      refine .inr (.inl ⟨?_, ?_⟩)
      · rw [hvalue, hend, greatestInt64]
        norm_num
      · rw [Int.min_eq_left hlt.le]
        rfl
    · refine .inl ⟨x.truncate, ⟨hleast, hle⟩, hvalue, ?_⟩
      rw [Int.min_eq_right hle]
      rfl
  · next hrange =>
    have hnot {n : Int} (hn : x.toRat = n) : ¬ (leastInt64 ≤ n ∧ n ≤ greatestInt64 + 1) := by
      rintro ⟨hleast, hgreatest⟩
      have hwhole := Finite.isWhole_of_toRat_eq hn
      rw [x.toRat_eq_truncate hwhole] at hn
      obtain rfl : x.truncate = n := by exact_mod_cast hn
      exact hrange ⟨⟨hwhole, hleast⟩, hgreatest⟩
    refine .inr (.inr ⟨fun hend => ?_, fun n hn heq => ?_, rfl⟩)
    · exact hnot (n := greatestInt64 + 1) (by rw [hend, greatestInt64]; norm_num)
        (by rw [leastInt64, greatestInt64]; omega)
    · exact hnot heq ⟨hn.1, by omega⟩

/-! ## Texts -/

/-- An integer that is written out is read as the double nearest to it. -/
theorem read_integer_text (n : Int) :
    Double.read? (Number.integer n).text = some (Double.ofInt n) := by
  rw [Double.read?, Number.text, String.toList_ofList, Number.chars]
  cases n with
  | ofNat k =>
    have hdigits := isDigits_digitsOf k
    have hdecimal := Expr.readDecimal_digits hdigits
    rw [intChars, readWidth_of_readDecimal hdecimal, ← readUnsigned_of_readDecimal hdecimal,
      readUnsigned_ofRatio false hdigits, numberOf_digitsOf]
    rfl
  | negSucc k =>
    rw [intChars, readWidth, readUnsigned_ofRatio true (isDigits_digitsOf _), numberOf_digitsOf,
      Double.ofInt, decide_eq_true (Int.negSucc_lt_zero k)]
    rfl

theorem writesInteger_text (n : Int) : WritesInteger (Number.integer n).text n := by
  rw [Number.text, Number.chars]
  cases n with
  | ofNat k => exact ⟨[], digitsOf k, .inl rfl, isDigits_digitsOf k, rfl, by simp⟩
  | negSucc k =>
    refine ⟨['-'], digitsOf (k + 1), .inr (.inr rfl), isDigits_digitsOf _, rfl, ?_⟩
    rw [if_pos rfl, numberOf_digitsOf]
    rfl

section Near

variable {x : Finite} {n : Int}

/-- An integer that is near enough to a double, on the same side of zero, is rounded to it. -/
theorem ofInt_of_near (hx : x.Canonical) (hpos : 0 < x.mantissa) (hsign : x.toRat < 0 ↔ n < 0)
    (hnear : |(n.natAbs : ℚ) - x.magnitude| < x.magnitude / 2 ^ 54) :
    Double.ofInt n = .finite x := by
  have hattracts : x.Attracts ((n.natAbs : ℚ) / (1 : Nat)) := by
    rw [Nat.cast_one, div_one]
    exact Finite.attracts_of_near hx hnear
  have hnegative : decide (n < 0) = x.negative := by
    rw [Finite.negative_eq hpos, decide_eq_decide, hsign]
  rw [Double.ofInt, ofRatio_of_attracts hx hpos Nat.one_pos hattracts, hnegative]

/-- A double that is an integer is the double of the integer, but for the sign of a zero. -/
theorem ofInt_of_toRat_eq (hx : x.Canonical) (h : x.toRat = n) :
    Double.ofInt n = .finite (if x.isZero then Finite.zero false else x) := by
  split
  · next hzero =>
    rw [x.toRat_eq_zero hzero] at h
    obtain rfl : n = 0 := by exact_mod_cast h.symm
    rfl
  · next hzero =>
    have hpos : 0 < x.mantissa := Nat.pos_of_ne_zero (by simpa [Finite.isZero] using hzero)
    refine ofInt_of_near hx hpos (by rw [h, Int.cast_lt_zero]) ?_
    rw [x.magnitude_eq_abs, h, Nat.cast_natAbs, Int.cast_abs, sub_self, abs_zero, ← h,
      ← x.magnitude_eq_abs]
    exact div_pos (Finite.magnitude_pos hpos) (by positivity)

/-- The integer that `2 ^ 63` is held to is still rounded to it. -/
theorem ofInt_greatest (hx : x.Canonical) (h : x.toRat = 2 ^ 63) :
    Double.ofInt greatestInt64 = .finite (if x.isZero then Finite.zero false else x) := by
  have hmagnitude : x.magnitude = 2 ^ 63 := by
    rw [x.magnitude_eq_abs, h]
    norm_num
  have hpos : 0 < x.mantissa := by
    refine Nat.pos_of_ne_zero fun hzero => ?_
    rw [Finite.magnitude, hzero] at hmagnitude
    norm_num at hmagnitude
  rw [if_neg (by simpa [Finite.isZero] using hpos.ne')]
  refine ofInt_of_near hx hpos (by rw [h, greatestInt64]; norm_num) ?_
  rw [hmagnitude, greatestInt64]
  norm_num

end Near

/-! ## Numbers from doubles -/

/-- What a double is as a number of the data model. -/
structure Number.Narrows (v : Number) (x : Finite) : Prop where
  /-- An integer is that integer, if 64 bits hold it. -/
  integer : ∀ n : Int, fitsInt64 n = true → x.toRat = n → v = .integer n
  /-- The integer next above those is the greatest of them. -/
  held : x.toRat = 2 ^ 63 → v = .integer greatestInt64
  /-- Every other double is itself. -/
  real : x.toRat ≠ 2 ^ 63 → (∀ n : Int, fitsInt64 n = true → x.toRat ≠ n) → v = .real x
  /-- So all doubles but one keep their value. -/
  exact_iff : v.toRat = x.toRat ↔ x.toRat ≠ 2 ^ 63
  /-- An integer is written out in full. -/
  writes : ∀ n : Int, v = .integer n → WritesInteger v.text n
  /-- The text is read as the double, but for the sign of a zero. -/
  reads : Double.read? v.text = some (.finite (if x.isZero then Finite.zero false else x))

section Narrows

variable {x : Finite} {n : Int}

theorem ne_end_of_fits (hn : fitsInt64 n = true) : (n : ℚ) ≠ 2 ^ 63 := by
  rw [fitsInt64_iff, greatestInt64] at hn
  intro heq
  have : n = 2 ^ 63 := by exact_mod_cast heq
  omega

theorem narrows_integer (hx : x.Canonical) (hn : fitsInt64 n = true) (h : x.toRat = n) :
    (Number.integer n).Narrows x where
  integer m _ hm := congrArg Number.integer (by rw [h] at hm; exact_mod_cast hm)
  held hend := absurd (h.symm.trans hend) (ne_end_of_fits hn)
  real _ hnone := absurd h (hnone n hn)
  exact_iff := iff_of_true h.symm (h ▸ ne_end_of_fits hn)
  writes m hm := Number.integer.inj hm ▸ writesInteger_text n
  reads := by rw [read_integer_text, ofInt_of_toRat_eq hx h]

theorem narrows_end (hx : x.Canonical) (h : x.toRat = 2 ^ 63) :
    (Number.integer greatestInt64).Narrows x where
  integer m hm heq := absurd (heq.symm.trans h) (ne_end_of_fits hm)
  held _ := rfl
  real hnot := absurd h hnot
  exact_iff := by
    refine iff_of_false ?_ (not_not.mpr h)
    rw [h]
    exact ne_end_of_fits (by decide)
  writes m hm := Number.integer.inj hm ▸ writesInteger_text greatestInt64
  reads := by rw [read_integer_text, ofInt_greatest hx h]

theorem narrows_real (hx : x.Canonical) (hnot : x.toRat ≠ 2 ^ 63)
    (hnone : ∀ n : Int, fitsInt64 n = true → x.toRat ≠ n) : (Number.real x).Narrows x where
  integer n hn heq := absurd heq (hnone n hn)
  held heq := absurd heq hnot
  real _ _ := rfl
  exact_iff := iff_of_true rfl hnot
  writes n hn := by cases hn
  reads := by
    -- a zero is an integer
    have hzero : ¬ x.isZero = true := fun hzero =>
      hnone 0 (by decide) (by rw [x.toRat_eq_zero hzero, Int.cast_zero])
    rw [if_neg hzero]
    exact Finite.read_text hx

/-- Every double is made a number, and this is what the number is. -/
theorem exists_narrows (hx : x.Canonical) :
    ∃ v : Number, Value.ofDouble (.finite x) = .number v ∧ v.Narrows x := by
  rcases Value.ofDouble_cases x with ⟨n, hn, h, hnumber⟩ | ⟨h, hnumber⟩ | ⟨hnot, hnone, hnumber⟩
  · exact ⟨_, hnumber, narrows_integer hx hn h⟩
  · exact ⟨_, hnumber, narrows_end hx h⟩
  · exact ⟨_, hnumber, narrows_real hx hnot hnone⟩

end Narrows

/-! ## Numbers in conditions -/

namespace Expr

variable {s : String} {x : Finite}

/-- A number in a condition is a word of its own. -/
theorem undelimited_of_read (h : Double.read? s = some (.finite x)) :
    s.toList ≠ [] ∧ ∀ d ∈ s.toList, isDelimiter d = false := by
  obtain ⟨d, hd, -⟩ := exists_digit_of_readWidth h
  exact ⟨List.ne_nil_of_mem hd,
    fun d hd => isDelimiter_eq_false (mem_of_readWidth h hd) (by decide)⟩

/-- A number in a condition is the operand that its double comes to. -/
theorem word_of_read (h : Double.read? s = some (.finite x)) (c : Context) :
    (inScope c).word s.toList = .operand (Value.ofDouble (.finite x)) := by
  obtain ⟨d, hd, hdigit⟩ := exists_digit_of_readWidth h
  have hbrace : '{' ∉ s.toList := fun hmem => absurd (mem_of_readWidth h hmem) (by decide)
  rw [Double.read?] at h
  rw [Reading.word, if_neg (by simpa using hbrace), plainWord_of_digit _ hd hdigit, wordConstant, h]
  rfl

theorem tokensOf_of_read (h : Double.read? s = some (.finite x)) (c : Context) {rest : List Char}
    (hrest : ∀ d ∈ rest.head?, isDelimiter d = true) :
    (inScope c).tokensOf (s.toList ++ rest) =
      ((inScope c).tokensOf rest).map (Token.operand (Value.ofDouble (.finite x)) :: ·) := by
  obtain ⟨hne, hword⟩ := undelimited_of_read h
  rw [tokensOf_word _ hne hword hrest, word_of_read h]

theorem value_of_read (h : Double.read? s = some (.finite x)) (c : Context) :
    value s c = .ok (Value.ofDouble (.finite x)) := by
  have htokens : (inScope c).tokens s = .ok [.operand (Value.ofDouble (.finite x))] := by
    have hword := tokensOf_of_read h c (fun d (hd : d ∈ [].head?) => by cases hd)
    rw [List.append_nil] at hword
    rw [Reading.tokens, hword, Reading.tokensOf]
    rfl
  rw [value, Reading.read, htokens]
  rfl

end Expr

/-! ## The value that is kept -/

/-- **Making a double a number keeps its value, but for one double.**  An integer that 64 bits
hold becomes that integer, `2 ^ 63` becomes the integer below it, and every other double stays a
double; its text is read as the same double.  A number in a condition, alone or in front of a
delimiter, is what its double becomes. -/
theorem narrowing_is_exact_iff (x : Finite) :
    (∀ s : String, Double.read? s = some (.finite x) → x.Canonical) ∧
      (x.Canonical → ∃ v : Number, Value.ofDouble (.finite x) = .number v ∧ v.Narrows x ∧
        ∀ s : String, Double.read? s = some (.finite x) → ∀ c : Context,
          Expr.value s c = .ok (.number v) ∧
          ∀ rest : List Char, (∀ d ∈ rest.head?, Expr.isDelimiter d = true) →
            (Expr.inScope c).tokensOf (s.toList ++ rest) =
              ((Expr.inScope c).tokensOf rest).map (Expr.Token.operand (.number v) :: ·)) := by
  refine ⟨fun s hread => canonical_of_readWidth hread, fun hx => ?_⟩
  obtain ⟨v, hnumber, hv⟩ := exists_narrows hx
  refine ⟨v, hnumber, hv, fun s hread c => ⟨?_, fun rest hrest => ?_⟩⟩
  · rw [Expr.value_of_read hread, hnumber]
  · rw [Expr.tokensOf_of_read hread c hrest, hnumber]

/-- Two to the power of 63, with a sign or without. -/
def Finite.endOfInt64 (negative : Bool) : Finite := ⟨negative, 2 ^ 52, 11⟩

theorem Finite.canonical_endOfInt64 (negative : Bool) : (endOfInt64 negative).Canonical :=
  ⟨by decide +revert, by decide +revert, by decide +revert, fun _ => le_rfl⟩

theorem Finite.toRat_endOfInt64 (negative : Bool) :
    (endOfInt64 negative).toRat = if negative then -2 ^ 63 else 2 ^ 63 := by
  have hmagnitude : (endOfInt64 negative).magnitude = 2 ^ 63 := by
    rw [magnitude, endOfInt64]
    norm_num
  rw [toRat, hmagnitude, endOfInt64]

/-- The lower end of the integers of 64 bits is kept; the upper end of the doubles next to them is
not, where it stands before a parenthesis as little as alone. -/
theorem narrowing_is_exact_iff_ends :
    ((Finite.endOfInt64 true).Canonical ∧
      Value.ofDouble (.finite (Finite.endOfInt64 true)) = .int leastInt64) ∧
    Double.read? "9223372036854775808" = some (.finite (Finite.endOfInt64 false)) ∧
    (Finite.endOfInt64 false).Canonical ∧ (∀ d ∈ [')'].head?, Expr.isDelimiter d = true) ∧
    ∀ c : Context, Expr.value "9223372036854775808" c = .ok (.int greatestInt64) ∧
      (Expr.inScope c).tokensOf ("9223372036854775808".toList ++ [')']) =
        ((Expr.inScope c).tokensOf [')']).map (Expr.Token.operand (.int greatestInt64) :: ·) := by
  have hread : Double.read? "9223372036854775808" = some (.finite (Finite.endOfInt64 false)) := by
    decide +kernel
  have hdelimiter : ∀ d ∈ [')'].head?, Expr.isDelimiter d = true := by
    intro d hd
    obtain rfl : ')' = d := Option.some.inj hd
    decide
  obtain ⟨-, hlower⟩ := narrowing_is_exact_iff (Finite.endOfInt64 true)
  obtain ⟨low, hlow, hlowNarrows, -⟩ := hlower (Finite.canonical_endOfInt64 true)
  obtain ⟨hcanonical, hupper⟩ := narrowing_is_exact_iff (Finite.endOfInt64 false)
  obtain ⟨high, -, hhighNarrows, hhigh⟩ := hupper (hcanonical _ hread)
  obtain rfl := hlowNarrows.integer leastInt64 (by decide)
    (by rw [Finite.toRat_endOfInt64, leastInt64]; norm_num)
  obtain rfl := hhighNarrows.held (Finite.toRat_endOfInt64 false)
  exact ⟨⟨Finite.canonical_endOfInt64 true, hlow⟩, hread, hcanonical _ hread, hdelimiter,
    fun c => ⟨(hhigh _ hread c).1, (hhigh _ hread c).2 _ hdelimiter⟩⟩

/-- The number `9223372036854775808` in a condition is a double, and comes to the integer that is
one less. -/
theorem upper_end_loses_one :
    Double.read? "9223372036854775808" = some (.finite (Finite.endOfInt64 false)) ∧
      (Finite.endOfInt64 false).toRat = 9223372036854775808 ∧
      Expr.value "9223372036854775808" {} = .ok (.number (.integer 9223372036854775807)) ∧
      (Number.integer 9223372036854775807).toRat ≠ (Finite.endOfInt64 false).toRat := by
  have hread : Double.read? "9223372036854775808" = some (.finite (Finite.endOfInt64 false)) := by
    decide +kernel
  have hvalue : (Finite.endOfInt64 false).toRat = 9223372036854775808 := by
    rw [Finite.toRat_endOfInt64]
    norm_num
  refine ⟨hread, hvalue, ?_, ?_⟩
  · rw [Expr.value_of_read hread]
    decide
  · rw [hvalue, Number.toRat]
    norm_num

end ActionTree
