import ActionTree.Proofs.DecimalReading

/-!
# ActionTree.Proofs.ShortestText

The shortest text of a double is read back.

1. a multiple of a power of ten is taken for a double only if the double attracts it
   (`Finite.stands_iff`);
2. where the first digit of a double is the seventeenth on the grid, one of the two multiples
   next to the double is near enough, so the search finds one (`Finite.exists_onGrid`);
3. zeros at the end can be dropped, and however digits are laid out they are read as the number
   that they are (`Digits.readDecimal_chars`);
4. the text is therefore read as the very double it was written for, sign and zeros included
   (`Finite.read_text`).
-/

namespace ActionTree

open Text

namespace Finite

variable {x : Finite} {k : Int} {d : Nat}

/-! ## The grid -/

/-- What quarters of the last place of a double are multiplied by to compare them with multiples of
`10 ^ k`. -/
def up (x : Finite) (k : Int) : Nat := pow2 (x.exponent - 2).toNat * pow10 (-k).toNat

/-- What multiples of `10 ^ k` are multiplied by to compare them with quarters of the last place of
a double. -/
def down (x : Finite) (k : Int) : Nat := pow2 (2 - x.exponent).toNat * pow10 k.toNat

/-- Whether a multiple of `10 ^ k` is taken for a double: between the midpoints, or on one of them
if the mantissa is even. -/
def stands (x : Finite) (k : Int) (d : Nat) : Bool :=
  let low := (4 * x.mantissa -
    (if x.mantissa = pow2 52 && x.exponent > -1074 then 1 else 2)) * x.up k
  let high := (4 * x.mantissa + 2) * x.up k
  if x.mantissa % 2 == 0 then low ≤ d * x.down k && d * x.down k ≤ high
  else low < d * x.down k && d * x.down k < high

/-- The multiple of `10 ^ k` next below a double. -/
def below (x : Finite) (k : Int) : Nat := 4 * x.mantissa * x.up k / x.down k

/-- What is found on a grid is one of the two multiples next to the double, and stands for it;
nothing is found only if neither does. -/
theorem onGrid_cases (x : Finite) (k : Int) :
    (∃ d, x.onGrid k = some d ∧ x.stands k d = true) ∨
      x.onGrid k = none ∧ x.stands k (x.below k) = false ∧ x.stands k (x.below k + 1) = false := by
  unfold onGrid
  dsimp only
  split
  · next hbelow habove => exact .inr ⟨rfl, hbelow, habove⟩
  · next hbelow _ => exact .inl ⟨_, rfl, hbelow⟩
  · next _ habove => exact .inl ⟨_, rfl, habove⟩
  · next hbelow habove =>
    split
    · exact .inl ⟨_, rfl, hbelow⟩
    · split
      · exact .inl ⟨_, rfl, habove⟩
      · split
        · exact .inl ⟨_, rfl, hbelow⟩
        · exact .inl ⟨_, rfl, habove⟩

theorem up_pos (x : Finite) (k : Int) : 0 < x.up k :=
  Nat.mul_pos (Nat.pow_pos (by decide)) (Nat.pow_pos (by decide))

theorem down_pos (x : Finite) (k : Int) : 0 < x.down k :=
  Nat.mul_pos (Nat.pow_pos (by decide)) (Nat.pow_pos (by decide))

theorem mul_down (x : Finite) (k : Int) (d : Nat) :
    ((d * x.down k : Nat) : ℚ) = 4 * (d * 10 ^ k / 2 ^ x.exponent) * x.up k := by
  have htwo : (2 : ℚ) ^ (2 - x.exponent).toNat =
      2 ^ 2 / 2 ^ x.exponent * 2 ^ (x.exponent - 2).toNat := by
    have hpow := pow_toNat_div (two_ne_zero (α := ℚ)) (2 - x.exponent)
    rw [neg_sub, zpow_sub₀ two_ne_zero] at hpow
    exact (div_eq_iff (pow_ne_zero _ two_ne_zero)).mp hpow
  have hten : (10 : ℚ) ^ k.toNat = 10 ^ k * 10 ^ (-k).toNat :=
    (div_eq_iff (pow_ne_zero _ (by norm_num))).mp (pow_toNat_div (by norm_num) k)
  simp only [up, down, pow2, pow10, Nat.pow_eq, Nat.cast_mul, Nat.cast_pow, Nat.cast_ofNat, htwo,
    hten]
  ring

theorem mul_up_le_mul_down {c : Nat} :
    c * x.up k ≤ d * x.down k ↔ (c : ℚ) ≤ 4 * (d * 10 ^ k / 2 ^ x.exponent) := by
  rw [← Nat.cast_le (α := ℚ), mul_down, Nat.cast_mul,
    mul_le_mul_iff_left₀ (Nat.cast_pos.mpr (x.up_pos k))]

theorem mul_down_le_mul_up {c : Nat} :
    d * x.down k ≤ c * x.up k ↔ 4 * (d * 10 ^ k / 2 ^ x.exponent) ≤ (c : ℚ) := by
  rw [← Nat.cast_le (α := ℚ), mul_down, Nat.cast_mul,
    mul_le_mul_iff_left₀ (Nat.cast_pos.mpr (x.up_pos k))]

/-- The search takes the multiples of a power of ten for a double that the double attracts. -/
theorem stands_iff (hpos : 0 < x.mantissa) : x.stands k d = true ↔ x.Attracts (d * 10 ^ k) := by
  have hreach : ((4 * x.mantissa -
      (if x.mantissa = pow2 52 && x.exponent > -1074 then 1 else 2) : Nat) : ℚ) =
        4 * (x.mantissa - x.reach) := by
    rw [Nat.cast_sub (by split <;> omega), reach]
    simp only [pow2, Nat.pow_eq, gt_iff_lt, Bool.and_eq_true, decide_eq_true_eq]
    split <;> push_cast <;> ring
  have hhigh : ((4 * x.mantissa + 2 : Nat) : ℚ) = 4 * (x.mantissa + 1 / 2) := by
    push_cast
    ring
  unfold stands
  dsimp only
  generalize 4 * x.mantissa - (if x.mantissa = pow2 52 && x.exponent > -1074 then 1 else 2) = low
    at hreach ⊢
  rcases Nat.mod_two_eq_zero_or_one x.mantissa with heven | hodd
  · simp only [heven, beq_self_eq_true, if_true, Bool.and_eq_true, decide_eq_true_eq,
      mul_up_le_mul_down, mul_down_le_mul_up, hreach, hhigh, mul_le_mul_iff_right₀ four_pos]
    constructor
    · rintro ⟨hlow, hup⟩
      exact ⟨hlow, hup, fun h => by omega⟩
    · exact fun h => ⟨h.low, h.high⟩
  · simp only [hodd, Nat.reduceBEq, Bool.false_eq_true, if_false, Bool.and_eq_true,
      decide_eq_true_eq, ← Nat.not_le, mul_up_le_mul_down, mul_down_le_mul_up, hreach, hhigh,
      mul_le_mul_iff_right₀ four_pos, not_le]
    constructor
    · rintro ⟨hlow, hup⟩
      exact ⟨hlow.le, hup.le, fun _ => ⟨hlow, hup⟩⟩
    · exact fun h => h.odd hodd

/-- A double lies between two multiples of `10 ^ k` that follow each other. -/
theorem below_bounds (x : Finite) (k : Int) :
    x.below k * 10 ^ k ≤ x.magnitude ∧ x.magnitude < (x.below k + 1 : Nat) * 10 ^ k := by
  have hle : x.below k * x.down k ≤ 4 * x.mantissa * x.up k := Nat.div_mul_le_self _ _
  have hlt : ¬ (x.below k + 1) * x.down k ≤ 4 * x.mantissa * x.up k :=
    Nat.not_le.mpr (Nat.lt_mul_of_div_lt (Nat.lt_succ_self _) (x.down_pos k))
  have hcast : ((4 * x.mantissa : Nat) : ℚ) = 4 * x.mantissa := by push_cast; rfl
  rw [mul_down_le_mul_up, hcast, mul_le_mul_iff_right₀ four_pos] at hle hlt
  exact ⟨(div_le_iff₀ (two_zpow_pos _)).mp hle, (lt_div_iff₀ (two_zpow_pos _)).mp (not_le.mp hlt)⟩

/-! ## The search -/

/-- What is found on a grid is attracted by the double. -/
theorem attracts_of_onGrid (hpos : 0 < x.mantissa) (h : x.onGrid k = some d) :
    x.Attracts (d * 10 ^ k) := by
  rcases x.onGrid_cases k with ⟨d', hd', hstands⟩ | ⟨hnone, -, -⟩
  · rw [h] at hd'
    obtain rfl := Option.some.inj hd'
    exact (stands_iff hpos).mp hstands
  · rw [h] at hnone
    contradiction

/-- On a grid of one part in `10 ^ 16` of a double there is something to find. -/
theorem exists_onGrid (hx : x.Canonical) (hpos : 0 < x.mantissa)
    (hk : 10 ^ k * 10 ^ 16 ≤ x.magnitude) : ∃ d, x.onGrid k = some d := by
  rcases x.onGrid_cases k with ⟨d, hd, -⟩ | ⟨-, hbelow, habove⟩
  · exact ⟨d, hd⟩
  · exfalso
    obtain ⟨hle, hlt⟩ := x.below_bounds k
    have hnot {d : Nat} (hstands : x.stands k d = false) :
        x.magnitude / 2 ^ 54 ≤ |d * 10 ^ k - x.magnitude| := by
      by_contra hnear
      have := (stands_iff hpos).mpr (attracts_of_near hx (not_le.mp hnear))
      rw [hstands] at this
      contradiction
    -- half a step of the grid is less than one part in `2 ^ 54`
    have hlow := hnot hbelow
    have hhigh := hnot habove
    rw [abs_of_nonpos (by linarith)] at hlow
    rw [abs_of_pos (by linarith)] at hhigh
    push_cast at hhigh
    have hmagnitude := magnitude_pos hpos
    linarith

theorem magnitude_eq_div (x : Finite) : x.magnitude = x.num / x.den := by
  rw [magnitude, ← pow_toNat_div two_ne_zero, num, den]
  simp only [pow2, Nat.pow_eq, Nat.cast_mul, Nat.cast_pow, Nat.cast_ofNat]
  rw [mul_div_assoc]

/-- The first digit of a double counts a power of ten that is not beyond it. -/
theorem ten_zpow_leadingPower_le (hpos : 0 < x.mantissa) :
    (10 : ℚ) ^ x.leadingPower ≤ x.magnitude := by
  have hnum : 0 < x.num := Nat.mul_pos hpos (Nat.two_pow_pos _)
  have hden : (0 : ℚ) < x.den := Nat.cast_pos.mpr x.den_pos
  rw [magnitude_eq_div, le_div_iff₀ hden, leadingPower]
  split
  · -- a fraction is at least the power by which its inverse, rounded up, is not exceeded
    have hlt : (x.den - 1) / x.num < 10 ^ (digitsOf ((x.den - 1) / x.num)).length :=
      (Nat.length_toDigits_le_iff (by decide) Nat.length_toDigits_pos).mp le_rfl
    generalize (digitsOf ((x.den - 1) / x.num)).length = places at hlt
    have hle : x.den ≤ 10 ^ places * x.num := by
      have := (Nat.div_lt_iff_lt_mul hnum).mp hlt
      omega
    rw [zpow_neg, zpow_natCast, inv_mul_le_iff₀ (by positivity)]
    exact_mod_cast hle
  · next hge =>
    have hwhole : x.num / x.den ≠ 0 := (Nat.div_pos (Nat.not_lt.mp hge) x.den_pos).ne'
    calc (10 : ℚ) ^ ((digitsOf (x.num / x.den)).length - 1 : Int) * x.den
        ≤ (x.num / x.den : Nat) * x.den :=
          mul_le_mul_of_nonneg_right (length_digitsOf_bounds hwhole).1 hden.le
      _ ≤ x.num := by exact_mod_cast Nat.div_mul_le_self _ _

end Finite

/-- Zeros at the end that are dropped are made up for by the power. -/
theorem Digits.strip_toRat (fuel : Nat) (d : Digits) : (d.strip fuel).toRat = d.toRat := by
  induction fuel generalizing d with
  | zero => rfl
  | succ fuel ih =>
    rw [strip]
    split
    · next hzero =>
      simp only [Bool.and_eq_true, beq_iff_eq] at hzero
      have hten : d.digits = 10 * (d.digits / 10) := by omega
      rw [ih, toRat, toRat]
      conv_rhs => rw [hten]
      dsimp only
      rw [zpow_add_one₀ (by norm_num)]
      push_cast
      ring
    · rfl

/-- The digits of a double are ones that it attracts. -/
theorem Finite.attracts_shortest {x : Finite} (hx : x.Canonical) (hpos : 0 < x.mantissa) :
    x.Attracts x.shortest.toRat := by
  have hgrid : (10 : ℚ) ^ (x.leadingPower - (16 : Nat)) * 10 ^ 16 ≤ x.magnitude := by
    rw [zpow_sub₀ (by norm_num), zpow_natCast, div_mul_cancel₀ _ (by norm_num)]
    exact x.ten_zpow_leadingPower_le hpos
  obtain ⟨d, hd⟩ := exists_onGrid hx hpos hgrid
  rw [shortest, Digits.strip_toRat]
  cases hfound : (List.range 17).findSome? fun (n : Nat) =>
      (x.onGrid (x.leadingPower - n)).map fun d => (⟨d, x.leadingPower - n⟩ : Digits) with
  | none =>
    have hnone := List.findSome?_eq_none_iff.mp hfound 16 (by decide)
    rw [hd] at hnone
    contradiction
  | some found =>
    obtain ⟨n, -, hn⟩ := List.exists_of_findSome?_eq_some hfound
    obtain ⟨d, hd, rfl⟩ := Option.map_eq_some_iff.mp hn
    exact attracts_of_onGrid hpos hd

/-! ## The layout -/

section Layout

variable {ds : List Char}

theorem isDigit_of_mem_zeros {n : Nat} {c : Char} (h : c ∈ List.replicate n '0') :
    c.isDigit = true := by
  rw [List.eq_of_mem_replicate h]
  decide

theorem isDigit_of_mem_zero {c : Char} (h : c ∈ ['0']) : c.isDigit = true :=
  isDigit_of_mem_zeros (n := 1) h

theorem numberOf_append_zeros (ds : List Char) (n : Nat) :
    numberOf (ds ++ List.replicate n '0') = 10 ^ n * numberOf ds := by
  rw [numberOf, Nat.ofDigitChars_append, Nat.ofDigitChars_replicate_zero, ← numberOf]

/-- Zeros up to the point are further digits. -/
theorem readDecimal_zeros_point (hne : ds ≠ []) (hds : ∀ c ∈ ds, c.isDigit = true) (n : Nat) :
    readDecimal (ds ++ List.replicate n '0' ++ ['.', '0']) =
      some ⟨10 ^ (n + 1) * numberOf ds, -1⟩ := by
  have hall : ∀ c ∈ ds ++ List.replicate n '0', c.isDigit = true := fun c hc =>
    (List.mem_append.mp hc).elim (hds c) isDigit_of_mem_zeros
  have hzeros : ds ++ List.replicate n '0' ++ ['0'] = ds ++ List.replicate (n + 1) '0' := by
    rw [List.replicate_succ', List.append_assoc]
  rw [readDecimal_placed (List.append_ne_nil_of_left_ne_nil hne _) hall
    (fun _ => isDigit_of_mem_zero), hzeros, numberOf_append_zeros]
  rfl

theorem readDecimal_point (hne : ds ≠ []) (hds : ∀ c ∈ ds, c.isDigit = true) {n : Nat}
    (hn : 0 < n) :
    readDecimal (ds.take n ++ '.' :: ds.drop n) = some ⟨numberOf ds, -(ds.length - n : Nat)⟩ := by
  have htake : ds.take n ≠ [] := by simp [hne, hn.ne']
  rw [readDecimal_placed htake (fun c hc => hds c (List.mem_of_mem_take hc))
    (fun c hc => hds c (List.mem_of_mem_drop hc)), List.take_append_drop, List.length_drop]

/-- Zeros behind the point count as places only. -/
theorem readDecimal_point_zeros (hds : ∀ c ∈ ds, c.isDigit = true) (n : Nat) :
    readDecimal ('0' :: '.' :: List.replicate n '0' ++ ds) =
      some ⟨numberOf ds, -(n + ds.length : Nat)⟩ := by
  have hall : ∀ c ∈ List.replicate n '0' ++ ds, c.isDigit = true := fun c hc =>
    (List.mem_append.mp hc).elim isDigit_of_mem_zeros (hds c)
  have hread := readDecimal_placed (List.cons_ne_nil '0' [])
    (fun _ => isDigit_of_mem_zero) hall
  rw [← List.append_assoc, ← List.replicate_one, List.replicate_append_replicate,
    numberOf_zeros, List.length_append, List.length_replicate] at hread
  exact hread

/-- Behind one digit or more a power is read with them. -/
theorem readDecimal_power {c : Char} {cs : List Char} (hc : ∀ d ∈ c :: cs, d.isDigit = true)
    (power : Int) :
    readDecimal (match cs with
      | [] => c :: powerChars power
      | _ => c :: '.' :: cs ++ powerChars power) =
        some ⟨numberOf (c :: cs), power - cs.length⟩ := by
  have hpower := readExponent_powerChars power
  cases cs with
  | nil =>
    have hread := readDecimal_unpointed (List.cons_ne_nil c []) hc
      ((if power < 0 then '-' else '+') :: digitsOf power.natAbs)
    rw [← powerChars, hpower] at hread
    simpa using hread
  | cons d ds =>
    have hread := readDecimal_pointed (List.cons_ne_nil c []) (fun e he => hc e (by simp_all))
      (fun e he => hc e (List.mem_cons_of_mem c he))
      (fun e (he : e ∈ (powerChars power).head?) => by
        obtain rfl : 'e' = e := Option.some.inj he
        decide)
    rw [hpower] at hread
    exact hread

end Layout

namespace Digits

/-- However digits are laid out, they are read as the number that they are. -/
theorem readDecimal_chars (x : Digits) : ∃ d, readDecimal x.chars = some d ∧ d.toRat = x.toRat := by
  have hdigits : ∀ c ∈ digitsOf x.digits, c.isDigit = true := fun c hc => isDigit_of_mem_digitsOf hc
  have hnumber := numberOf_digitsOf x.digits
  have hne := digitsOf_ne_nil x.digits
  unfold chars
  dsimp only
  generalize digitsOf x.digits = ds at hdigits hnumber hne
  have hlength : 0 < ds.length := List.length_pos_iff.mpr hne
  simp only [toRat, ← hnumber]
  split
  · split
    · next hexponent =>
      refine ⟨_, readDecimal_zeros_point hne hdigits _, ?_⟩
      lift x.exponent to Nat using hexponent with n
      simp only [Decimal.toRat, Int.toNat_natCast, zpow_natCast]
      push_cast
      rw [zpow_neg_one, pow_succ]
      ring
    · split
      · refine ⟨_, readDecimal_point hne hdigits (by omega), ?_⟩
        rw [Decimal.toRat]
        congr 2
        dsimp only
        omega
      · refine ⟨_, readDecimal_point_zeros hdigits _, ?_⟩
        rw [Decimal.toRat]
        congr 2
        dsimp only
        omega
  · obtain ⟨c, cs, rfl⟩ := List.exists_cons_of_ne_nil hne
    have hread := readDecimal_power hdigits (x.exponent + (c :: cs).length - 1)
    refine ⟨⟨numberOf (c :: cs), x.exponent⟩, ?_, rfl⟩
    rw [show x.exponent + (c :: cs).length - 1 - cs.length = x.exponent by
      rw [List.length_cons]; omega] at hread
    cases cs <;> exact hread

end Digits

/-! ## Reading back -/

namespace Finite

theorem eq_zero_of_isZero {x : Finite} (hx : x.Canonical) (h : x.isZero = true) :
    x = zero x.negative := by
  obtain ⟨negative, mantissa, exponent⟩ := x
  obtain rfl : mantissa = 0 := by simpa [isZero] using h
  have hleast := hx.least
  have hfull := hx.full
  obtain rfl : exponent = -1074 := by
    dsimp only at hleast hfull
    omega
  rfl

theorem readDecimal_body {x : Finite} (hx : x.Canonical) :
    ∃ d, readDecimal (if x.isZero then ['0', '.', '0'] else x.shortest.chars) = some d ∧
      ∀ negative, d.toWidth .wide negative = .finite { x with negative } := by
  split
  · next hzero =>
    rw [eq_zero_of_isZero hx hzero]
    exact ⟨⟨0, -1⟩, by decide, fun _ => rfl⟩
  · next hzero =>
    have hpos : 0 < x.mantissa := Nat.pos_of_ne_zero (by simpa [isZero] using hzero)
    obtain ⟨d, hd, hvalue⟩ := x.shortest.readDecimal_chars
    refine ⟨d, hd, Decimal.toWidth_of_attracts hx hpos ?_⟩
    rw [hvalue]
    exact attracts_shortest hx hpos

/-- **The text of a double is read as the same double.** -/
theorem read_text {x : Finite} (hx : x.Canonical) : Double.read? x.text = some (.finite x) := by
  obtain ⟨d, hd, hvalue⟩ := readDecimal_body hx
  rw [Double.read?, text, String.toList_ofList, chars]
  cases hnegative : x.negative with
  | false =>
    rw [if_neg (by decide), readWidth_of_readDecimal hd, hvalue, ← hnegative]
  | true =>
    rw [if_pos rfl, readWidth, readUnsigned_of_readDecimal hd, hvalue, ← hnegative]

end Finite

end ActionTree
