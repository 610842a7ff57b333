import Mathlib.Tactic.NormNum
import ActionTree.Proofs.IntegerOperands
import ActionTree.Proofs.RoundingInterval

/-!
# ActionTree.Proofs.DecimalReading

The doubles that decimal texts are read as.

1. digits, a point with more digits behind it or none, and a power of ten are read as the decimal
   number that they write (`readDecimal_pointed`, `readDecimal_placed`, `readDecimal_unpointed`);
2. a decimal number that a double attracts is read as this double, by whatever digits it is
   written (`Decimal.toWidth_of_attracts`);
3. a text that is read as a finite double has one digit or more and nothing in it but digits, a
   point, signs and the mark of a power (`mem_of_readWidth`), and the double has its one form
   (`canonical_of_readWidth`).
-/

namespace ActionTree

open Text

/-! ## Decimal numbers -/

/-- The number that a decimal number is. -/
def Decimal.toRat (d : Decimal) : ℚ := d.digits * 10 ^ d.exponent

/-- The number that digits with a power of ten are. -/
def Digits.toRat (d : Digits) : ℚ := d.digits * 10 ^ d.exponent

theorem ten_zpow_pos (k : Int) : (0 : ℚ) < 10 ^ k := zpow_pos (by norm_num) k

theorem length_digitsOf_bounds {n : Nat} (hn : n ≠ 0) :
    (10 : ℚ) ^ ((digitsOf n).length - 1 : Int) ≤ n ∧
      (n : ℚ) < 10 ^ ((digitsOf n).length : Int) := by
  have hpos : 0 < (digitsOf n).length := Nat.length_toDigits_pos
  have hhigh : n < 10 ^ (digitsOf n).length :=
    (Nat.length_toDigits_le_iff (by decide) hpos).mp le_rfl
  have hlow : 10 ^ ((digitsOf n).length - 1) ≤ n := by
    rcases Nat.eq_or_lt_of_le hpos with hone | hmore
    · rw [← hone]
      exact Nat.pos_of_ne_zero hn
    · by_contra hlt
      have hle : (digitsOf n).length ≤ (digitsOf n).length - 1 :=
        (Nat.length_toDigits_le_iff (by decide) (by omega)).mpr (Nat.lt_of_not_le hlt)
      omega
  constructor
  · rw [show ((digitsOf n).length - 1 : Int) = ((digitsOf n).length - 1 : Nat) by omega,
      zpow_natCast]
    exact_mod_cast hlow
  · rw [zpow_natCast]
    exact_mod_cast hhigh

theorem two_pow_lt_ten_pow : (2 : ℚ) ^ 1075 < 10 ^ 400 :=
  calc (2 : ℚ) ^ 1075 ≤ 2 ^ (3 * 400) := pow_le_pow_right₀ one_le_two (by decide)
    _ = (2 ^ 3) ^ 400 := pow_mul 2 3 400
    _ < 10 ^ 400 := pow_lt_pow_left₀ (by norm_num) (by norm_num) (by decide)

/-- Whatever is rounded to a positive double has at most four hundred places on either side of the
point. -/
theorem Finite.Attracts.bounds {x : Finite} {r : ℚ} (h : x.Attracts r) (hx : x.Canonical)
    (hpos : 0 < x.mantissa) : (10 : ℚ) ^ (-400 : Int) < r ∧ r < 10 ^ (400 : Int) := by
  have hpow := two_zpow_pos x.exponent
  have hone : (1 : ℚ) ≤ x.mantissa := by exact_mod_cast hpos
  have hshort : (x.mantissa : ℚ) + 1 ≤ 2 ^ 53 := by exact_mod_cast hx.short
  constructor
  · calc (10 : ℚ) ^ (-400 : Int) = (10 ^ 400)⁻¹ := zpow_neg 10 400
      _ < (2 ^ 1075)⁻¹ := inv_strictAnti₀ (by positivity) two_pow_lt_ten_pow
      _ = 1 / 2 * 2 ^ (-1074 : Int) := by
          rw [zpow_neg, pow_succ, mul_inv, one_div, mul_comm]
          rfl
      _ ≤ 1 / 2 * 2 ^ x.exponent :=
          mul_le_mul_of_nonneg_left (zpow_le_zpow_right₀ one_le_two hx.least) (by norm_num)
      _ ≤ r := (le_div_iff₀ hpow).mp (by linarith [h.low, x.reach_le])
  · calc r ≤ 2 ^ 53 * 2 ^ x.exponent := (div_le_iff₀ hpow).mp (by linarith [h.high])
      _ ≤ 2 ^ 53 * 2 ^ (971 : Int) :=
          mul_le_mul_of_nonneg_left (zpow_le_zpow_right₀ one_le_two hx.greatest) (by norm_num)
      _ = 2 ^ 1024 := by rw [← zpow_natCast 2 53, ← zpow_add₀ two_ne_zero]; rfl
      _ ≤ 2 ^ 1075 := pow_le_pow_right₀ one_le_two (by decide)
      _ < 10 ^ 400 := two_pow_lt_ten_pow

namespace Decimal

variable {d : Decimal} {x : Finite}

/-- A decimal number that a double attracts is read as this double. -/
theorem toWidth_of_attracts (hx : x.Canonical) (hpos : 0 < x.mantissa) (h : x.Attracts d.toRat)
    (negative : Bool) : d.toWidth .wide negative = .finite { x with negative } := by
  have hdigits : d.digits ≠ 0 := by
    intro hzero
    have := h.pos hpos
    rw [toRat, hzero] at this
    simp at this
  obtain ⟨hlow, hhigh⟩ := length_digitsOf_bounds hdigits
  obtain ⟨hleast, hgreatest⟩ := h.bounds hx hpos
  have hpow := ten_zpow_pos d.exponent
  -- the magnitude alone settles nothing, for the number is in the range of the doubles
  have hmost : d.exponent + (digitsOf d.digits).length ≤ 400 := by
    have hlt : (10 : ℚ) ^ ((digitsOf d.digits).length - 1 + d.exponent : Int) <
        10 ^ (400 : Int) := by
      rw [zpow_add₀ (by norm_num)]
      exact lt_of_le_of_lt (mul_le_mul_of_nonneg_right hlow hpow.le) hgreatest
    have := (zpow_lt_zpow_iff_right₀ (by norm_num : (1 : ℚ) < 10)).mp hlt
    omega
  have hfew : -400 ≤ d.exponent + (digitsOf d.digits).length := by
    have hlt : (10 : ℚ) ^ (-400 : Int) < 10 ^ ((digitsOf d.digits).length + d.exponent : Int) := by
      rw [zpow_add₀ (by norm_num)]
      exact lt_trans hleast (mul_lt_mul_of_pos_right hhigh hpow)
    have := (zpow_lt_zpow_iff_right₀ (by norm_num : (1 : ℚ) < 10)).mp hlt
    omega
  have hratio : ((d.digits * pow10 d.exponent.toNat : Nat) : ℚ) /
      (pow10 (-d.exponent).toNat : Nat) = d.toRat := by
    simp only [pow10, Nat.pow_eq]
    rw [toRat, ← pow_toNat_div (by norm_num : (10 : ℚ) ≠ 0) d.exponent]
    push_cast
    rw [mul_div_assoc]
  have hden : 0 < pow10 (-d.exponent).toNat := Nat.pow_pos (by decide)
  rw [toWidth, if_neg hdigits]
  dsimp only
  rw [if_neg (by omega), if_neg (by omega)]
  exact ofRatio_of_attracts hx hpos hden (by rwa [hratio]) negative

theorem canonical_of_toWidth {negative : Bool} (h : d.toWidth .wide negative = .finite x) :
    x.Canonical := by
  unfold toWidth at h
  split at h
  · exact Double.finite.inj h ▸ Finite.canonical_zero negative
  · dsimp only at h
    split at h
    · contradiction
    · split at h
      · exact Double.finite.inj h ▸ Finite.canonical_zero negative
      · exact canonical_of_ofRatio (Nat.pow_pos (by decide)) h

end Decimal

/-! ## The parts of a text -/

/-- Digits go on up to the first character that is none. -/
theorem span_digits {ds : List Char} (rest : List Char) (hds : ∀ d ∈ ds, d.isDigit = true)
    (hrest : ∀ c ∈ rest.head?, c.isDigit = false) :
    (ds ++ rest).takeWhile Char.isDigit = ds ∧ (ds ++ rest).dropWhile Char.isDigit = rest := by
  rw [List.takeWhile_append_of_pos hds, List.dropWhile_append_of_pos hds]
  cases rest with
  | nil => simp
  | cons c cs => simp [hrest c rfl]

section Parts

variable {whole fraction cs : List Char} {d : Decimal}

theorem readDecimal_pointed (hne : whole ≠ []) (hwhole : ∀ c ∈ whole, c.isDigit = true)
    (hfraction : ∀ c ∈ fraction, c.isDigit = true) {tail : List Char}
    (htail : ∀ c ∈ tail.head?, c.isDigit = false) :
    readDecimal (whole ++ '.' :: (fraction ++ tail)) =
      (readExponent tail).map fun e => ⟨numberOf (whole ++ fraction), e - fraction.length⟩ := by
  obtain ⟨htake, hdrop⟩ := span_digits ('.' :: (fraction ++ tail)) hwhole (by simp)
  obtain ⟨htake', hdrop'⟩ := span_digits tail hfraction htail
  simp [readDecimal, htake, hdrop, htake', hdrop', hne]

theorem readDecimal_placed (hne : whole ≠ []) (hwhole : ∀ c ∈ whole, c.isDigit = true)
    (hfraction : ∀ c ∈ fraction, c.isDigit = true) :
    readDecimal (whole ++ '.' :: fraction) =
      some ⟨numberOf (whole ++ fraction), -fraction.length⟩ := by
  have hread := readDecimal_pointed hne hwhole hfraction (fun c (hc : c ∈ [].head?) => by cases hc)
  rw [List.append_nil, readExponent, Option.map_some, Int.zero_sub] at hread
  exact hread

theorem readDecimal_unpointed (hne : whole ≠ []) (hwhole : ∀ c ∈ whole, c.isDigit = true)
    (power : List Char) :
    readDecimal (whole ++ 'e' :: power) =
      (readExponent ('e' :: power)).map fun e => ⟨numberOf whole, e⟩ := by
  obtain ⟨htake, hdrop⟩ := span_digits ('e' :: power) hwhole (by simp)
  simp [readDecimal, htake, hdrop, hne]

/-- A power of ten is read back. -/
theorem readExponent_powerChars (power : Int) : readExponent (powerChars power) = some power := by
  have hdigits := isDigits_digitsOf power.natAbs
  rw [powerChars, readExponent, if_pos (by decide)]
  split
  · rw [readIntChars, if_pos hdigits, numberOf_digitsOf]
    congr 1
    omega
  · rw [readIntChars, readNatChars, if_pos hdigits, numberOf_digitsOf, Option.map_some]
    congr 1
    exact Int.natAbs_of_nonneg (by omega)
    · simp

/-- A character that numbers are written with. -/
def isNumeralChar (c : Char) : Bool :=
  c.isDigit || c = '.' || c = 'e' || c = 'E' || c = '+' || c = '-'

theorem mem_of_readExponent {e : Int} (h : readExponent cs = some e) {c : Char} (hc : c ∈ cs) :
    isNumeralChar c = true := by
  cases cs with
  | nil => contradiction
  | cons mark power =>
    rw [readExponent] at h
    split at h
    · next hmark =>
      rcases List.mem_cons.mp hc with rfl | hc
      · simp only [Bool.or_eq_true, decide_eq_true_eq] at hmark
        rcases hmark with rfl | rfl <;> decide
      · rcases Expr.mem_of_readIntChars h hc with rfl | rfl | hdigit
        · decide
        · decide
        · simp [isNumeralChar, hdigit]
    · contradiction

/-- What a decimal number is read from: digits, a point and digits or neither, and a power. -/
theorem parts_of_readDecimal (h : readDecimal cs = some d) :
    ∃ whole point fraction tail e, cs = whole ++ (point ++ (fraction ++ tail)) ∧
      (∀ c ∈ whole ++ fraction, c.isDigit = true) ∧ whole ++ fraction ≠ [] ∧
      (point = [] ∨ point = ['.']) ∧ readExponent tail = some e := by
  have hwhole : ∀ c ∈ cs.takeWhile Char.isDigit, c.isDigit = true :=
    fun c hc => List.mem_takeWhile_imp hc
  have hcs : cs = cs.takeWhile Char.isDigit ++ cs.dropWhile Char.isDigit :=
    List.takeWhile_append_dropWhile.symm
  unfold readDecimal at h
  dsimp only at h
  generalize cs.takeWhile Char.isDigit = whole at h hwhole hcs
  generalize cs.dropWhile Char.isDigit = rest at h hcs
  split at h
  · next r =>
    dsimp only at h
    split at h
    · contradiction
    · next hne =>
      obtain ⟨e, he, -⟩ := Option.map_eq_some_iff.mp h
      refine ⟨whole, ['.'], r.takeWhile Char.isDigit, r.dropWhile Char.isDigit, e, ?_, ?_, ?_,
        .inr rfl, he⟩
      · rw [List.takeWhile_append_dropWhile]
        exact hcs
      · intro c hc
        rcases List.mem_append.mp hc with hc | hc
        · exact hwhole c hc
        · exact List.mem_takeWhile_imp hc
      · simpa [List.append_eq_nil_iff] using hne
  · dsimp only at h
    split at h
    · contradiction
    · next hne =>
      obtain ⟨e, he, -⟩ := Option.map_eq_some_iff.mp h
      refine ⟨whole, [], [], rest, e, hcs, ?_, ?_, .inl rfl, he⟩
      · rwa [List.append_nil]
      · simpa using hne

theorem exists_digit_of_readDecimal (h : readDecimal cs = some d) : ∃ c ∈ cs, c.isDigit = true := by
  obtain ⟨whole, point, fraction, tail, e, rfl, hdigits, hne, -, -⟩ := parts_of_readDecimal h
  obtain ⟨c, hc⟩ := List.exists_mem_of_ne_nil _ hne
  refine ⟨c, ?_, hdigits c hc⟩
  rcases List.mem_append.mp hc with hc | hc <;> simp [hc]

theorem mem_of_readDecimal (h : readDecimal cs = some d) {c : Char} (hc : c ∈ cs) :
    isNumeralChar c = true := by
  obtain ⟨whole, point, fraction, tail, e, rfl, hdigits, -, hpoint, he⟩ := parts_of_readDecimal h
  have hdigit {c : Char} (hc : c ∈ whole ++ fraction) : isNumeralChar c = true := by
    simp [isNumeralChar, hdigits c hc]
  simp only [List.mem_append] at hc hdigit
  rcases hc with hc | hc | hc | hc
  · exact hdigit (.inl hc)
  · rcases hpoint with rfl | rfl
    · contradiction
    · rw [List.mem_singleton.mp hc]
      decide
  · exact hdigit (.inr hc)
  · exact mem_of_readExponent he hc

end Parts

/-! ## Texts of numbers -/

section Texts

variable {w : Width} {cs : List Char} {d : Decimal} {x : Finite}

/-- A decimal number is no name of a value that is not finite. -/
theorem readUnsigned_of_readDecimal (h : readDecimal cs = some d) (negative : Bool) :
    readUnsigned w negative cs = some (d.toWidth w negative) := by
  obtain ⟨c, hc, hdigit⟩ := exists_digit_of_readDecimal h
  rw [readUnsigned, if_neg (Expr.lower_ne_of_digit hc hdigit (by decide)),
    if_neg (by simp [Expr.lower_ne_of_digit hc hdigit]), h, Option.map_some]

theorem readWidth_of_readDecimal (h : readDecimal cs = some d) :
    readWidth w cs = some (d.toWidth w false) := by
  unfold readWidth
  split
  · simp [readDecimal] at h
  · simp [readDecimal] at h
  · exact readUnsigned_of_readDecimal h false

/-- What is read as a finite double is a decimal number behind a sign or none. -/
theorem readDecimal_of_readWidth (h : readWidth w cs = some (.finite x)) :
    ∃ (sign unsigned : List Char) (negative : Bool) (d : Decimal),
      (sign = [] ∨ sign = ['+'] ∨ sign = ['-']) ∧ cs = sign ++ unsigned ∧
      readDecimal unsigned = some d ∧ d.toWidth w negative = .finite x := by
  have hdecimal {negative : Bool} {unsigned : List Char}
      (h : readUnsigned w negative unsigned = some (.finite x)) :
      ∃ d, readDecimal unsigned = some d ∧ d.toWidth w negative = .finite x := by
    unfold readUnsigned at h
    dsimp only at h
    split at h
    · cases h
    · split at h
      · cases h
      · exact Option.map_eq_some_iff.mp h
  unfold readWidth at h
  split at h
  · next unsigned =>
    obtain ⟨d, hd, hx⟩ := hdecimal h
    exact ⟨['-'], unsigned, true, d, by simp, rfl, hd, hx⟩
  · next unsigned =>
    obtain ⟨d, hd, hx⟩ := hdecimal h
    exact ⟨['+'], unsigned, false, d, by simp, rfl, hd, hx⟩
  · obtain ⟨d, hd, hx⟩ := hdecimal h
    exact ⟨[], cs, false, d, by simp, rfl, hd, hx⟩

theorem mem_of_readWidth (h : readWidth w cs = some (.finite x)) {c : Char} (hc : c ∈ cs) :
    isNumeralChar c = true := by
  obtain ⟨sign, unsigned, -, d, hsign, rfl, hd, -⟩ := readDecimal_of_readWidth h
  rcases List.mem_append.mp hc with hc | hc
  · rcases hsign with rfl | rfl | rfl
    · contradiction
    · rw [List.mem_singleton.mp hc]
      decide
    · rw [List.mem_singleton.mp hc]
      decide
  · exact mem_of_readDecimal hd hc

theorem exists_digit_of_readWidth (h : readWidth w cs = some (.finite x)) :
    ∃ c ∈ cs, c.isDigit = true := by
  obtain ⟨sign, unsigned, -, d, -, rfl, hd, -⟩ := readDecimal_of_readWidth h
  obtain ⟨c, hc, hdigit⟩ := exists_digit_of_readDecimal hd
  exact ⟨c, List.mem_append_right sign hc, hdigit⟩

/-- What is read as a finite double is one in its one form. -/
theorem canonical_of_readWidth (h : readWidth .wide cs = some (.finite x)) : x.Canonical := by
  obtain ⟨-, -, negative, d, -, -, -, hx⟩ := readDecimal_of_readWidth h
  exact Decimal.canonical_of_toWidth hx

end Texts

end ActionTree
