import ActionTree.Proofs.IntegerOperands
import ActionTree.Proofs.Run

/-!
# ActionTree.Proofs.IntegerAttributes

The integers that attributes write out in full.

1. the naturals that are rounded to a finite double are those below `Double.limit`, half a
   spacing beyond the greatest double (`ofRatio_of_lt_limit`, `ofRatio_of_limit_le`), and a
   numeral is read as the nearest double of its integer, or as an infinite one;
2. no integer beyond 64 bits is rounded back into them, so each one that is read as a finite
   double is held to the end on its side (`Finite.held_of_not_fits`);
3. an attribute with a numeral is therefore exact within 64 bits, the least or the greatest
   integer beyond them, and refused only from the limit of the doubles on
   (`Host.integer?_of_writesInteger`).
-/

namespace ActionTree

open Text

/-! ## The limit of the doubles -/

/-- Half a spacing below `2 ^ (k + 54)`, where the spacing is twice `2 ^ k`. -/
def halfway (k : Nat) : Nat := (2 ^ 54 - 1) * 2 ^ k

/-- The least natural number that is rounded to an infinite double. -/
def Double.limit : Nat := halfway 970

section Halfway

variable {k n : Nat}

theorem log2_lt_of_lt_halfway (h : n < halfway k) : n.log2 < k + 54 := by
  rcases Nat.eq_zero_or_pos n with rfl | hn
  · simp
  · refine (Nat.log2_lt (Nat.ne_of_gt hn)).mpr (Nat.lt_of_lt_of_le h ?_)
    rw [halfway, Nat.pow_add, Nat.mul_comm]
    exact Nat.mul_le_mul_left _ (by decide)

theorem le_log2_of_halfway_le (h : halfway k ≤ n) : k + 53 ≤ n.log2 := by
  have hlow : 2 ^ (k + 53) ≤ halfway k := by
    rw [halfway, Nat.pow_add, Nat.mul_comm]
    exact Nat.mul_le_mul_right _ (by decide)
  have hpos : 0 < 2 ^ (k + 53) := Nat.two_pow_pos _
  exact (Nat.le_log2 (by omega)).mpr (Nat.le_trans hlow h)

theorem halfway_mono {j k : Nat} (h : j ≤ k) : halfway j ≤ halfway k :=
  Nat.mul_le_mul_left _ (Nat.pow_le_pow_right Nat.two_pos h)

theorem halfway_le_ten_pow (k : Nat) : halfway (3 * k) ≤ 10 ^ (18 + k) :=
  calc halfway (3 * k) ≤ 2 ^ (3 * 18) * 2 ^ (3 * k) := Nat.mul_le_mul_right _ (by decide)
    _ = 8 ^ (18 + k) := by rw [← Nat.pow_add, ← Nat.mul_add, Nat.pow_mul]
    _ ≤ 10 ^ (18 + k) := Nat.pow_le_pow_left (by decide) _

/-- What lies halfway is rounded up. -/
theorem nearest_halfway (k : Nat) : nearest (halfway k) (2 * 2 ^ k) = 2 ^ 53 := by
  have hpos : 0 < 2 ^ k := Nat.two_pow_pos k
  have hsum : halfway k = 2 ^ k + (2 ^ 53 - 1) * (2 * 2 ^ k) := by
    rw [halfway]
    ring
  have hquotient : halfway k / (2 * 2 ^ k) = 2 ^ 53 - 1 := by
    rw [hsum, Nat.add_mul_div_right _ _ (by omega), Nat.div_eq_of_lt (by omega), Nat.zero_add]
  have hrest : halfway k % (2 * 2 ^ k) = 2 ^ k := by
    rw [hsum, Nat.add_mul_mod_self_right, Nat.mod_eq_of_lt (by omega)]
  simp only [nearest, hquotient, hrest, Nat.lt_irrefl, if_false]
  decide

/-- What has so many bits is rounded up to one more just from halfway on. -/
theorem nearest_lt_iff_lt_halfway (h : n.log2 = k + 53) :
    nearest n (spacing n) < 2 ^ 53 ↔ n < halfway k := by
  have hspacing : spacing n = 2 * 2 ^ k := by
    rw [spacing, h, show k + 53 - 52 = k + 1 by omega, Nat.pow_succ']
  rw [hspacing]
  have hpos : 0 < 2 * 2 ^ k := Nat.mul_pos Nat.two_pos (Nat.two_pow_pos k)
  constructor
  · intro hlt
    by_contra hge
    have hmono := nearest_mono hpos (Nat.le_of_not_lt hge)
    rw [nearest_halfway] at hmono
    omega
  · intro hlt
    have hdiv := Nat.div_add_mod n (2 * 2 ^ k)
    have hmul : (2 * (n / (2 * 2 ^ k)) + 1) * 2 ^ k = 2 * 2 ^ k * (n / (2 * 2 ^ k)) + 2 ^ k := by
      ring
    rw [halfway] at hlt
    rcases nearest_cases n (2 * 2 ^ k) with ⟨hdown, -⟩ | ⟨hup, hrest⟩
    · rw [hdown]
      exact Nat.div_lt_of_lt_mul (by omega)
    · -- the quotient and half a spacing are below, so there is room for another one
      have hless : (2 * (n / (2 * 2 ^ k)) + 1) * 2 ^ k < (2 ^ 54 - 1) * 2 ^ k := by omega
      have hquotient := Nat.lt_of_mul_lt_mul_right hless
      omega

end Halfway

/-! ## Rounding at the limit -/

/-- What is beyond the greatest exponent is infinite. -/
theorem Width.round_of_gt {w : Width} {num den m : Nat} {e : Int} (negative : Bool) (h0 : num ≠ 0)
    (he : w.scale num den = e)
    (hm : nearest (num * 2 ^ (-e).toNat) (den * 2 ^ e.toNat) = m)
    (hgreatest : w.greatest < e ∨ m = 2 ^ w.bits ∧ w.greatest < e + 1) :
    w.round negative num den = .infinite negative := by
  simp only [Width.round, if_neg h0, he, pow2, Nat.pow_eq, hm]
  by_cases hfull : m = 2 ^ w.bits
  · rw [if_pos hfull]
    exact if_pos (by omega)
  · rw [if_neg hfull]
    exact if_pos (by omega)

section Limit

variable {n : Nat}

/-- The mantissa of a number of more than 53 bits. -/
theorem nearest_spacing (h : 52 ≤ n.log2) :
    nearest (n * 2 ^ (-((n.log2 : Int) - 52)).toNat) (1 * 2 ^ ((n.log2 : Int) - 52).toNat) =
      nearest n (spacing n) := by
  rw [show (-((n.log2 : Int) - 52)).toNat = 0 by omega,
    show ((n.log2 : Int) - 52).toNat = n.log2 - 52 by omega, Nat.pow_zero, Nat.mul_one,
    Nat.one_mul, spacing]

/-- A natural number below the limit is rounded to a whole double. -/
theorem ofRatio_of_lt_limit (negative : Bool) (h : n < Double.limit) :
    ∃ x : Finite, Double.ofRatio negative n 1 = .finite x ∧ x.negative = negative ∧
      x.IsNat (nearDouble n) := by
  have hlog : n.log2 < 970 + 54 := log2_lt_of_lt_halfway h
  rcases Nat.lt_or_ge n.log2 1023 with hsmall | hlarge
  · exact ofRatio_whole negative hsmall
  · have heq : n.log2 = 970 + 53 := by omega
    have h0 : n ≠ 0 := by
      rintro rfl
      simp at heq
    have hlt := (nearest_lt_iff_lt_halfway heq).mpr h
    refine ⟨_, Width.round_of_lt negative h0 (Width.scale_one h0) (nearest_spacing (by omega)) hlt
      ?_, rfl, ?_⟩
    · simp only [Width.wide]
      omega
    · refine .of_nonneg (by simp only; omega) ?_
      rw [nearDouble, spacing, show ((n.log2 : Int) - 52).toNat = n.log2 - 52 by omega]

theorem ofRatio_of_limit_le (negative : Bool) (h : Double.limit ≤ n) :
    Double.ofRatio negative n 1 = .infinite negative := by
  have hlog : 970 + 53 ≤ n.log2 := le_log2_of_halfway_le h
  have h0 : n ≠ 0 := by
    rintro rfl
    simp at hlog
  refine Width.round_of_gt negative h0 (Width.scale_one h0) (nearest_spacing (by omega)) ?_
  simp only [Width.wide]
  rcases Nat.lt_or_eq_of_le hlog with hlarge | heq
  · exact .inl (by omega)
  · have hn : 2 ^ 53 ≤ n := Nat.le_trans (by decide) (Nat.le_trans (Nat.pow_le_pow_right
      Nat.two_pos (by omega : 53 ≤ n.log2)) (Nat.log2_self_le h0))
    have hle := nearest_le (spacing_pos n) (bounds_of_ge hn).2
    have hge := mt (nearest_lt_iff_lt_halfway heq.symm).mp (Nat.not_lt.mpr h)
    exact .inr ⟨by omega, by omega⟩

end Limit

/-! ## Numerals -/

/-- A text that writes an integer in base ten: a sign or none, and digits, however many. -/
def WritesInteger (text : String) (i : Int) : Prop :=
  ∃ sign digits : List Char, (sign = [] ∨ sign = ['+'] ∨ sign = ['-']) ∧
    isDigits digits = true ∧ text = String.ofList (sign ++ digits) ∧
    i = if sign = ['-'] then -(numberOf digits : Int) else numberOf digits

theorem writesInteger_iff {text : String} {i : Int} :
    WritesInteger text i ↔ readIntChars text.toList = some i := by
  constructor
  · rintro ⟨sign, digits, rfl | rfl | rfl, hdigits, rfl, rfl⟩
    · have hunsigned : readNatChars digits = some (numberOf digits) := by
        unfold readNatChars
        split
        · simp [isDigits] at hdigits
        · rw [if_pos hdigits]
      rw [String.toList_ofList, List.nil_append]
      unfold readIntChars
      split
      · simp [isDigits] at hdigits
      · simp [hunsigned]
    · simp [readIntChars, readNatChars, hdigits]
    · simp [readIntChars, hdigits]
  · intro h
    obtain ⟨sign, digits, hsign, hword, hdigits, hvalue⟩ := Expr.eq_of_readIntChars h
    refine ⟨sign, digits, hsign, hdigits, ?_, hvalue⟩
    rw [← hword, String.ofList_toList]

/-- Many digits are a large number. -/
theorem halfway_le_of_lt_length {n k : Nat} (h : 18 + k < (digitsOf n).length) :
    halfway (3 * k) ≤ n := by
  refine Nat.le_trans (halfway_le_ten_pow k) (Nat.le_of_not_lt fun hlt => ?_)
  have hlength := (Nat.length_toDigits_le_iff (by decide) (by omega)).mpr hlt
  exact absurd h (Nat.not_lt.mpr hlength)

theorem limit_le_of_lt_length {n : Nat} (h : 400 < (digitsOf n).length) : Double.limit ≤ n :=
  Nat.le_trans (halfway_mono (by decide : 970 ≤ 3 * 324))
    (halfway_le_of_lt_length (by omega : 18 + 324 < (digitsOf n).length))

/-- However many digits a numeral has, it is read as the nearest double of its integer. -/
theorem readUnsigned_ofRatio (negative : Bool) {ds : List Char} (hds : isDigits ds = true) :
    readUnsigned .wide negative ds = some (Double.ofRatio negative (numberOf ds) 1) := by
  rcases Nat.lt_or_ge 400 (digitsOf (numberOf ds)).length with hlong | hshort
  · -- the magnitude alone makes the number infinite, as rounding would
    have hlimit := limit_le_of_lt_length hlong
    have h0 : numberOf ds ≠ 0 := by
      intro h0
      rw [h0] at hlong
      exact absurd hlong (by decide)
    obtain ⟨d, hd, hdigit⟩ := Expr.exists_digit_of_isDigits hds
    rw [readUnsigned, if_neg (Expr.lower_ne_of_digit hd hdigit (by decide)),
      if_neg (by simp [Expr.lower_ne_of_digit hd hdigit]), Expr.readDecimal_digits hds,
      Option.map_some, ofRatio_of_limit_le negative hlimit, Decimal.toWidth, if_neg h0]
    exact congrArg some (if_pos (by dsimp only; omega))
  · exact Expr.readUnsigned_digits .wide negative hds hshort

/-! ## Integers held to 64 bits -/

theorem fitsInt64_iff {i : Int} : fitsInt64 i = true ↔ leastInt64 ≤ i ∧ i ≤ greatestInt64 := by
  simp only [fitsInt64, Bool.and_eq_true, decide_eq_true_eq]

/-- The end of the integers of 64 bits that is on the side of an integer. -/
def endOfInt64 (i : Int) : Int := if i < 0 then leastInt64 else greatestInt64

/-- Rounding does not bring an integer back that 64 bits do not hold. -/
theorem two_pow_le_nearDouble {n : Nat} (h : 2 ^ 63 ≤ n) : 2 ^ 63 ≤ nearDouble n := by
  have hpow : nearDouble (2 ^ 63) = 2 ^ 63 := nearDouble_of_representable ⟨1, 63, by decide, rfl⟩
  exact hpow ▸ nearDouble_mono h

/-- A double that comes from an integer beyond 64 bits is held to the end on its side. -/
theorem Finite.held_of_not_fits {x : Finite} {i : Int} (h : ¬ fitsInt64 i = true)
    (hsign : i = if x.negative then -(i.natAbs : Int) else i.natAbs)
    (hwhole : x.IsNat (nearDouble i.natAbs)) :
    Double.toInt64? (.finite x) = some (endOfInt64 i) := by
  rw [fitsInt64_iff] at h
  rw [Double.toInt64?, hwhole.truncate, endOfInt64]
  have hbeyond : 2 ^ 63 ≤ i.natAbs := by
    simp only [leastInt64, greatestInt64] at h
    omega
  have hnear := two_pow_le_nearDouble hbeyond
  generalize nearDouble i.natAbs = k at hnear
  cases hneg : x.negative <;> simp only [hneg, if_true, Bool.false_eq_true, if_false] at hsign ⊢
  · rw [if_neg (by omega)]
    simp only [leastInt64, greatestInt64]
    congr 1
    omega
  · rw [if_pos (by omega)]
    simp only [leastInt64, greatestInt64]
    congr 1
    omega

/-- The integer of a text that writes one. -/
theorem integerOfText_numeral {text : String} {i : Int} (h : WritesInteger text i) :
    integerOfText text =
      if fitsInt64 i then some i
      else if i.natAbs < Double.limit then some (endOfInt64 i) else none := by
  have hread := writesInteger_iff.mp h
  rw [integerOfText, hread]
  dsimp only
  by_cases hfits : fitsInt64 i = true
  · rw [if_pos hfits, if_pos hfits]
  · rw [if_neg hfits, if_neg hfits]
    obtain ⟨negative, ds, hds, hnumber, hwidth, hsign⟩ := Expr.readWidth_sign .wide hread
    rw [Double.read?, hwidth, readUnsigned_ofRatio negative hds, hnumber, Option.bind_some]
    rcases Nat.lt_or_ge i.natAbs Double.limit with hlt | hge
    · obtain ⟨x, hx, rfl, hwhole⟩ := ofRatio_of_lt_limit negative hlt
      rw [hx, if_pos hlt, Finite.held_of_not_fits hfits hsign hwhole]
    · rw [ofRatio_of_limit_le negative hge, if_neg (Nat.not_lt.mpr hge)]
      rfl

/-! ## Attributes -/

namespace Host

variable {h : Host} {n : Node} {key : String} {c : Context} {text : String} {i : Int}

theorem integer?_of_writesInteger (htext : h.attr? n key c = .ok (some text))
    (hi : WritesInteger (trim text) i) :
    h.integer? n key c =
      if fitsInt64 i then .ok (some i)
      else if i.natAbs < Double.limit then .ok (some (endOfInt64 i))
      else .error (n.badAttribute key ("'" ++ trim text ++ "' is not a number")) := by
  rw [integer?, htext]
  dsimp only
  rw [integerOfText_numeral hi]
  split_ifs <;> rfl

/-- **An integer that is written out in an attribute** is exact if 64 bits hold it, is the end
of the integers of 64 bits on its side if they do not, and is refused only if it is too large
for a double as well.  So it is exact or refused except between these limits. -/
theorem integer_is_exact_or_refused_iff (htext : h.attr? n key c = .ok (some text))
    (hi : WritesInteger (trim text) i) :
    h.integer? n key c =
      (if fitsInt64 i then .ok (some i)
      else if i.natAbs < Double.limit then .ok (some (endOfInt64 i))
      else .error (n.badAttribute key ("'" ++ trim text ++ "' is not a number"))) ∧
    ((fitsInt64 i = true ∧ h.integer? n key c = .ok (some i) ∨
        ¬ fitsInt64 i = true ∧ ∃ detail, h.integer? n key c = .error (n.badAttribute key detail)) ↔
      fitsInt64 i = true ∨ Double.limit ≤ i.natAbs) := by
  have hinteger := integer?_of_writesInteger htext hi
  refine ⟨hinteger, ?_⟩
  rw [hinteger]
  by_cases hfits : fitsInt64 i = true
  · simp [hfits]
  · rcases Nat.lt_or_ge i.natAbs Double.limit with hlt | hge
    · simp [hfits, hlt, Nat.not_le.mpr hlt]
    · simp [hfits, hge, Nat.not_lt.mpr hge]

/-- A loop between two bounds, each one beyond an end of the integers of 64 bits. -/
def widestLoop : Node :=
  { name := "loop",
    attributes := [("from", "-9223372036854775809"), ("to", " +09223372036854775808 ")] }

theorem integer_is_exact_or_refused_iff_widestLoop :
    let h := Host.ofLibrary {}
    (h.attr? widestLoop "to" {} = .ok (some " +09223372036854775808 ") ∧
      WritesInteger (trim " +09223372036854775808 ") 9223372036854775808) ∧
    h.integer? widestLoop "to" {} = .ok (some 9223372036854775807) := by
  intro h
  have htext : h.attr? widestLoop "to" {} = .ok (some " +09223372036854775808 ") := by
    decide +kernel
  have hi : WritesInteger (trim " +09223372036854775808 ") 9223372036854775808 :=
    writesInteger_iff.mpr (by decide +kernel)
  have hlimit : (9223372036854775808 : Int).natAbs < Double.limit :=
    Nat.lt_of_lt_of_le (by decide : _ < 2 ^ 54 * 2 ^ 10)
      (Nat.le_trans (by decide) (halfway_mono (by decide : 11 ≤ 970)))
  have hinteger := (integer_is_exact_or_refused_iff htext hi).1
  rw [if_neg (by decide), if_pos hlimit] at hinteger
  exact ⟨⟨htext, hi⟩, hinteger⟩

/-- A bound that 64 bits do not hold is neither kept nor refused. -/
theorem integer_is_replaced :
    let h := Host.ofLibrary {}
    h.attr? widestLoop "from" {} = .ok (some "-9223372036854775809") ∧
    WritesInteger (trim "-9223372036854775809") (-9223372036854775809) ∧
    h.integer? widestLoop "from" {} = .ok (some (-9223372036854775808)) :=
  ⟨by decide +kernel, writesInteger_iff.mpr (by decide +kernel), by decide +kernel⟩

end Host

end ActionTree
