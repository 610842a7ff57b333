import Mathlib.Algebra.Order.Floor.Semifield
import Mathlib.Data.Int.Log
import Mathlib.Data.Rat.Floor
import Mathlib.Tactic.FieldSimp
import Mathlib.Tactic.Linarith
import Mathlib.Tactic.Positivity
import ActionTree.Proofs.Rounding

/-!
# ActionTree.Proofs.RoundingInterval

The ratios that are rounded to one double.

1. a double has one form (`Finite.Canonical`), and what comes of rounding has it
   (`canonical_of_ofRatio`);
2. the ratios that are rounded to a positive double lie between the midpoints to its neighbours,
   and a midpoint belongs to the even mantissa (`Finite.Attracts`, `ofRatio_of_attracts`).  Below a
   power of two the neighbours are half as far apart as above it;
3. wherever in its range a double lies, all ratios nearer to it than one part in `2 ^ 54` are among
   them (`Finite.attracts_of_near`).
-/

namespace ActionTree

/-! ## Powers of two -/

theorem two_zpow_pos (e : Int) : (0 : ℚ) < 2 ^ e := zpow_pos two_pos e

/-- A power with any exponent is a ratio of powers whose exponents are naturals. -/
theorem pow_toNat_div {b : ℚ} (hb : b ≠ 0) (e : Int) : b ^ e.toNat / b ^ (-e).toNat = b ^ e := by
  rw [← zpow_natCast, ← zpow_natCast, ← zpow_sub₀ hb]
  congr 1
  omega

/-- A ratio is scaled by a power of two on the side where its exponent is positive. -/
theorem ratio_scaled (num den : Nat) (e : Int) :
    ((num * 2 ^ (-e).toNat : Nat) : ℚ) / (den * 2 ^ e.toNat : Nat) = num / den / 2 ^ e := by
  rw [← pow_toNat_div (two_ne_zero (α := ℚ)) e]
  push_cast
  rw [div_div_div_eq]

theorem log2_bounds {n : Nat} (hn : 0 < n) :
    (2 : ℚ) ^ (n.log2 : Int) ≤ n ∧ (n : ℚ) < 2 ^ ((n.log2 : Int) + 1) := by
  have hlow : 2 ^ n.log2 ≤ n := Nat.log2_self_le hn.ne'
  have hhigh : n < 2 ^ (n.log2 + 1) := Nat.lt_log2_self
  constructor
  · rw [zpow_natCast]
    exact_mod_cast hlow
  · rw [show (n.log2 : Int) + 1 = ((n.log2 + 1 : Nat) : Int) by omega, zpow_natCast]
    exact_mod_cast hhigh

theorem log_bounds {r : ℚ} (hr : 0 < r) :
    (2 : ℚ) ^ Int.log 2 r ≤ r ∧ r < 2 ^ (Int.log 2 r + 1) := by
  have hlow := Int.zpow_log_le_self (R := ℚ) Nat.one_lt_two hr
  have hhigh := Int.lt_zpow_succ_log_self (R := ℚ) Nat.one_lt_two r
  exact ⟨by simpa using hlow, by simpa using hhigh⟩

/-! ## The exponent of a ratio -/

section Scale

variable {num den : Nat}

/-- The logarithms of numerator and denominator leave two choices for that of the ratio. -/
theorem log_ratio (hnum : 0 < num) (hden : 0 < den) :
    Int.log 2 ((num : ℚ) / den) = (num.log2 : Int) - den.log2 - 1 ∨
      Int.log 2 ((num : ℚ) / den) = (num.log2 : Int) - den.log2 := by
  obtain ⟨hnumLow, hnumHigh⟩ := log2_bounds hnum
  obtain ⟨hdenLow, hdenHigh⟩ := log2_bounds hden
  have hden' : (0 : ℚ) < den := Nat.cast_pos.mpr hden
  have hratio : (0 : ℚ) < num / den := div_pos (Nat.cast_pos.mpr hnum) hden'
  have hlow : (num.log2 : Int) - den.log2 - 1 ≤ Int.log 2 ((num : ℚ) / den) := by
    rw [← Int.zpow_le_iff_le_log Nat.one_lt_two hratio, Nat.cast_ofNat, le_div_iff₀ hden']
    calc (2 : ℚ) ^ ((num.log2 : Int) - den.log2 - 1) * den
        ≤ 2 ^ ((num.log2 : Int) - den.log2 - 1) * 2 ^ ((den.log2 : Int) + 1) :=
          mul_le_mul_of_nonneg_left hdenHigh.le (two_zpow_pos _).le
      _ = 2 ^ (num.log2 : Int) := by
          rw [← zpow_add₀ two_ne_zero]
          congr 1
          omega
      _ ≤ num := hnumLow
  have hhigh : Int.log 2 ((num : ℚ) / den) < (num.log2 : Int) - den.log2 + 1 := by
    rw [← Int.lt_zpow_iff_log_lt Nat.one_lt_two hratio, Nat.cast_ofNat, div_lt_iff₀ hden']
    calc (num : ℚ) < 2 ^ ((num.log2 : Int) + 1) := hnumHigh
      _ = 2 ^ ((num.log2 : Int) - den.log2 + 1) * 2 ^ (den.log2 : Int) := by
          rw [← zpow_add₀ two_ne_zero]
          congr 1
          omega
      _ ≤ 2 ^ ((num.log2 : Int) - den.log2 + 1) * den :=
          mul_le_mul_of_nonneg_left hdenLow (two_zpow_pos _).le
  omega

/-- The exponent of a ratio is the one that makes its mantissa as long as the format has it. -/
theorem Width.scale_eq_log (w : Width) (hnum : 0 < num) (hden : 0 < den) :
    w.scale num den = max w.least (Int.log 2 ((num : ℚ) / den) + 1 - w.bits) := by
  have hratio : (0 : ℚ) < num / den := div_pos (Nat.cast_pos.mpr hnum) (Nat.cast_pos.mpr hden)
  have hlog := log_ratio hnum hden
  generalize hguess : (num.log2 : Int) - den.log2 - w.bits = guess
  -- the guess is one too small just if it leaves a bit too many
  have hwhole : num * 2 ^ (-guess).toNat / (den * 2 ^ guess.toNat) < 2 ^ w.bits ↔
      Int.log 2 ((num : ℚ) / den) < w.bits + guess := by
    rw [← Int.lt_zpow_iff_log_lt Nat.one_lt_two hratio, ← Nat.floor_div_eq_div (K := ℚ),
      ratio_scaled, Nat.floor_lt (div_pos hratio (two_zpow_pos _)).le,
      div_lt_iff₀ (two_zpow_pos _), Nat.cast_ofNat, zpow_add₀ two_ne_zero, zpow_natCast,
      Nat.cast_pow, Nat.cast_ofNat]
  simp only [Width.scale, pow2, Nat.pow_eq, hguess, hwhole]
  split <;> omega

/-- A ratio at its exponent is less than two to the length of the mantissa, and at least half of
that unless the exponent is the least one. -/
theorem Width.scale_bounds {w : Width} {e : Int} (hnum : 0 < num) (hden : 0 < den)
    (he : w.scale num den = e) (hbits : 0 < w.bits) :
    (num : ℚ) / den / 2 ^ e < 2 ^ w.bits ∧
      (w.least < e → 2 ^ (w.bits - 1) ≤ (num : ℚ) / den / 2 ^ e) := by
  have hratio : (0 : ℚ) < num / den := div_pos (Nat.cast_pos.mpr hnum) (Nat.cast_pos.mpr hden)
  obtain ⟨hlow, hhigh⟩ := log_bounds hratio
  rw [Width.scale_eq_log w hnum hden] at he
  constructor
  · rw [div_lt_iff₀ (two_zpow_pos _), ← zpow_natCast, ← zpow_add₀ two_ne_zero]
    exact lt_of_lt_of_le hhigh (zpow_le_zpow_right₀ one_le_two (by omega))
  · intro hleast
    rw [le_div_iff₀ (two_zpow_pos _), ← zpow_natCast, ← zpow_add₀ two_ne_zero]
    exact le_trans (zpow_le_zpow_right₀ one_le_two (by omega)) hlow

end Scale

/-! ## The mantissa of a ratio -/

/-- A multiple that is less than half of `d` away is the one that is counted, and so is an even one
at half of `d`. -/
theorem nearest_of_half {n d k : Nat} (hd : 0 < d) (hlow : 2 * (k * d) ≤ 2 * n + d)
    (hhigh : 2 * n ≤ 2 * (k * d) + d)
    (hodd : k % 2 = 1 → 2 * (k * d) < 2 * n + d ∧ 2 * n < 2 * (k * d) + d) :
    nearest n d = k := by
  have hmod := Nat.mod_lt n hd
  have hdiv : n = n / d * d + n % d := (Nat.div_add_mod' n d).symm
  have hbetween : k = n / d ∨ k = n / d + 1 := by
    have hle : n / d ≤ k := by
      by_contra hlt
      have : (k + 1) * d ≤ n / d * d := Nat.mul_le_mul_right d (by omega)
      rw [Nat.add_mul] at this
      omega
    have hge : k ≤ n / d + 1 := by
      by_contra hlt
      have : (n / d + 2) * d ≤ k * d := Nat.mul_le_mul_right d (by omega)
      rw [Nat.add_mul] at this
      omega
    omega
  unfold nearest
  dsimp only
  rcases hbetween with hk | hk
  · rw [← hk] at hdiv ⊢
    split_ifs <;> omega
  · rw [hk, Nat.add_mul] at hlow hodd
    split_ifs <;> omega

/-- A ratio is rounded to an integer that it is less than one half away from, and to an even one
that it is one half away from. -/
theorem nearest_of_close {n d k : Nat} (hd : 0 < d) (hlow : (k : ℚ) - 1 / 2 ≤ n / d)
    (hhigh : (n : ℚ) / d ≤ k + 1 / 2)
    (hodd : k % 2 = 1 → (k : ℚ) - 1 / 2 < n / d ∧ (n : ℚ) / d < k + 1 / 2) : nearest n d = k := by
  have hd' : (0 : ℚ) < d := Nat.cast_pos.mpr hd
  rw [le_div_iff₀ hd'] at hlow
  rw [div_le_iff₀ hd'] at hhigh
  rw [lt_div_iff₀ hd', div_lt_iff₀ hd'] at hodd
  refine nearest_of_half hd ?_ ?_ fun hk => ?_
  · have : 2 * ((k : ℚ) * d) ≤ 2 * n + d := by linarith
    exact_mod_cast this
  · have : 2 * (n : ℚ) ≤ 2 * (k * d) + d := by linarith
    exact_mod_cast this
  · obtain ⟨hl, hh⟩ := hodd hk
    constructor
    · have : 2 * ((k : ℚ) * d) < 2 * n + d := by linarith
      exact_mod_cast this
    · have : 2 * (n : ℚ) < 2 * (k * d) + d := by linarith
      exact_mod_cast this

/-! ## Doubles in their one form -/

namespace Finite

/-- The absolute value of a double. -/
def magnitude (x : Finite) : ℚ := x.mantissa * 2 ^ x.exponent

/-- The number that a double is. -/
def toRat (x : Finite) : ℚ := if x.negative then -x.magnitude else x.magnitude

/-- A double in the one form it has: its mantissa has 53 bits, fewer only at the least
exponent. -/
structure Canonical (x : Finite) : Prop where
  least : -1074 ≤ x.exponent
  greatest : x.exponent ≤ 971
  short : x.mantissa < 2 ^ 53
  full : -1074 < x.exponent → 2 ^ 52 ≤ x.mantissa

theorem canonical_zero (negative : Bool) : (zero negative).Canonical :=
  ⟨Int.le_refl _, by decide +revert, by decide +revert, fun h => absurd h (Int.lt_irrefl _)⟩

theorem magnitude_nonneg (x : Finite) : 0 ≤ x.magnitude :=
  mul_nonneg (Nat.cast_nonneg _) (two_zpow_pos _).le

theorem magnitude_pos {x : Finite} (h : 0 < x.mantissa) : 0 < x.magnitude :=
  mul_pos (Nat.cast_pos.mpr h) (two_zpow_pos _)

theorem magnitude_div (x : Finite) : x.magnitude / 2 ^ x.exponent = x.mantissa :=
  mul_div_cancel_right₀ _ (two_zpow_pos _).ne'

/-- How far below its mantissa a double attracts ratios: halfway to the next mantissa, which is
half as far at a power of two. -/
def reach (x : Finite) : ℚ := if x.mantissa = 2 ^ 52 ∧ -1074 < x.exponent then 1 / 4 else 1 / 2

/-- The ratios that are rounded to a positive double: those between the midpoints to its
neighbours, and the midpoints if the mantissa is even. -/
structure Attracts (x : Finite) (r : ℚ) : Prop where
  low : x.mantissa - x.reach ≤ r / 2 ^ x.exponent
  high : r / 2 ^ x.exponent ≤ x.mantissa + 1 / 2
  odd : x.mantissa % 2 = 1 →
    x.mantissa - x.reach < r / 2 ^ x.exponent ∧ r / 2 ^ x.exponent < x.mantissa + 1 / 2

theorem reach_le (x : Finite) : x.reach ≤ 1 / 2 := by
  unfold reach
  split <;> norm_num

section Attracts

variable {x : Finite} {r : ℚ}

theorem Attracts.pos (h : x.Attracts r) (hx : 0 < x.mantissa) : 0 < r := by
  have hone : (1 : ℚ) ≤ x.mantissa := by exact_mod_cast hx
  have hquotient : 0 < r / 2 ^ x.exponent := by linarith [h.low, x.reach_le]
  exact (div_pos_iff_of_pos_right (two_zpow_pos _)).mp hquotient

/-- What is nearer to a double than one part in `2 ^ 54` is rounded to it. -/
theorem attracts_of_near (hx : x.Canonical) (h : |r - x.magnitude| < x.magnitude / 2 ^ 54) :
    x.Attracts r := by
  have hpow := two_zpow_pos x.exponent
  have hnear : |r / 2 ^ x.exponent - x.mantissa| < x.mantissa / 2 ^ 54 := by
    have hscaled := div_lt_div_of_pos_right h hpow
    rwa [← abs_of_pos hpow, ← abs_div, abs_of_pos hpow, sub_div, div_right_comm,
      magnitude_div] at hscaled
  have hshort : (x.mantissa : ℚ) + 1 ≤ 2 ^ 53 := by exact_mod_cast hx.short
  have hhalf : (x.mantissa : ℚ) / 2 ^ 54 < 1 / 2 := by
    rw [div_lt_iff₀ (by positivity)]
    linarith
  have hreach : (x.mantissa : ℚ) / 2 ^ 54 ≤ x.reach := by
    unfold reach
    split
    · next hpower =>
      rw [hpower.1]
      norm_num
    · exact hhalf.le
  obtain ⟨hlow, hhigh⟩ := abs_lt.mp hnear
  exact ⟨by linarith, by linarith, fun _ => ⟨by linarith, by linarith⟩⟩

end Attracts

end Finite

/-! ## Rounding to a double -/

section Round

variable {x : Finite} {num den : Nat} {e : Int}

/-- The exponent of a ratio is known by the length of its mantissa. -/
theorem Width.scale_wide (hnum : 0 < num) (hden : 0 < den) (hleast : -1074 ≤ e)
    (hlow : (2 : ℚ) ^ 52 ≤ num / den / 2 ^ e ∨ e = -1074)
    (hhigh : (num : ℚ) / den / 2 ^ e < 2 ^ 53) : Width.wide.scale num den = e := by
  have hratio : (0 : ℚ) < num / den := div_pos (Nat.cast_pos.mpr hnum) (Nat.cast_pos.mpr hden)
  have hlt : Int.log 2 ((num : ℚ) / den) < 53 + e := by
    rw [← Int.lt_zpow_iff_log_lt Nat.one_lt_two hratio, Nat.cast_ofNat, zpow_add₀ two_ne_zero]
    exact (div_lt_iff₀ (two_zpow_pos _)).mp hhigh
  rw [Width.scale_eq_log _ hnum hden]
  simp only [Width.wide]
  rcases hlow with hlow | rfl
  · have hle : 52 + e ≤ Int.log 2 ((num : ℚ) / den) := by
      rw [← Int.zpow_le_iff_le_log Nat.one_lt_two hratio, Nat.cast_ofNat, zpow_add₀ two_ne_zero]
      exact (le_div_iff₀ (two_zpow_pos _)).mp hlow
    omega
  · omega

/-- Below a power of two a ratio has an exponent less, and by a quarter or less it is rounded up to
the power. -/
theorem ofRatio_below_power (hnum : 0 < num) (hden : 0 < den) (hleast : -1074 < e)
    (hgreatest : e ≤ 971) (hlow : (2 : ℚ) ^ 52 - 1 / 4 ≤ num / den / 2 ^ e)
    (hhigh : (num : ℚ) / den / 2 ^ e < 2 ^ 52) (negative : Bool) :
    Double.ofRatio negative num den = .finite ⟨negative, 2 ^ 52, e⟩ := by
  have hhalf : (num : ℚ) / den / 2 ^ (e - 1) = 2 * (num / den / 2 ^ e) := by
    rw [zpow_sub_one₀ two_ne_zero]
    field_simp
  have hscale : Width.wide.scale num den = e - 1 :=
    Width.scale_wide hnum hden (by omega) (.inl (by rw [hhalf]; linarith))
      (by rw [hhalf]; linarith)
  have hnear : nearest (num * 2 ^ (-(e - 1)).toNat) (den * 2 ^ (e - 1).toNat) = 2 ^ 53 := by
    refine nearest_of_close (Nat.mul_pos hden (Nat.two_pow_pos _)) ?_ ?_ ?_
    all_goals rw [ratio_scaled, hhalf]
    · push_cast
      linarith
    · push_cast
      linarith
    · intro hodd
      omega
  have hround := Width.round_of_eq negative hnum.ne' hscale hnear
    (by simp only [Width.wide]; omega)
  rw [Double.ofRatio, hround, Int.sub_add_cancel]
  rfl

/-- A ratio that a double attracts is rounded to it. -/
theorem ofRatio_of_attracts (hx : x.Canonical) (hpos : 0 < x.mantissa) (hden : 0 < den)
    (h : x.Attracts ((num : ℚ) / den)) (negative : Bool) :
    Double.ofRatio negative num den = .finite { x with negative } := by
  have hnum : 0 < num := by
    have := (div_pos_iff_of_pos_right (Nat.cast_pos.mpr hden)).mp (h.pos hpos)
    exact_mod_cast this
  have hshort : (x.mantissa : ℚ) + 1 ≤ 2 ^ 53 := by exact_mod_cast hx.short
  obtain ⟨hlow, hhigh, hodd⟩ := h
  have hreach := x.reach_le
  by_cases hfull : (2 : ℚ) ^ 52 ≤ num / den / 2 ^ x.exponent ∨ x.exponent = -1074
  · have hscale := Width.scale_wide hnum hden hx.least hfull (by linarith)
    have hnear : nearest (num * 2 ^ (-x.exponent).toNat) (den * 2 ^ x.exponent.toNat) =
        x.mantissa := by
      refine nearest_of_close (Nat.mul_pos hden (Nat.two_pow_pos _)) ?_ ?_ ?_
      all_goals rw [ratio_scaled]
      · linarith
      · exact hhigh
      · intro hmantissa
        obtain ⟨hl, hh⟩ := hodd hmantissa
        exact ⟨by linarith, hh⟩
    exact Width.round_of_lt negative hnum.ne' hscale hnear hx.short hx.greatest
  · -- only a power of two attracts a ratio that has an exponent less
    obtain ⟨hbelow, hexponent⟩ := not_or.mp hfull
    have hleast : -1074 < x.exponent := by
      have := hx.least
      omega
    have hmantissa : x.mantissa = 2 ^ 52 := by
      have hlt : (x.mantissa : ℚ) < 2 ^ 52 + 1 := by linarith
      have hlt' : x.mantissa < 2 ^ 52 + 1 := by exact_mod_cast hlt
      have := hx.full hleast
      omega
    rw [Finite.reach, if_pos ⟨hmantissa, hleast⟩, hmantissa] at hlow
    rw [hmantissa]
    exact ofRatio_below_power hnum hden hleast hx.greatest (by exact_mod_cast hlow)
      (not_le.mp hbelow) negative

/-- What comes of rounding is a double in its one form. -/
theorem canonical_of_ofRatio {negative : Bool} (hden : 0 < den)
    (h : Double.ofRatio negative num den = .finite x) : x.Canonical := by
  rcases Nat.eq_zero_or_pos num with rfl | hnum
  · obtain rfl : Finite.zero negative = x := Double.finite.inj h
    exact Finite.canonical_zero negative
  rw [Double.ofRatio, Width.round, if_neg hnum.ne'] at h
  generalize he : Width.wide.scale num den = e at h
  obtain ⟨hhigh, hlow⟩ := Width.scale_bounds hnum hden he (by decide)
  have hleast : -1074 ≤ e := by
    rw [← he, Width.scale_eq_log _ hnum hden]
    exact le_max_left _ _
  rw [← ratio_scaled] at hhigh hlow
  simp only [pow2, Nat.pow_eq] at h
  have hden' : 0 < den * 2 ^ e.toNat := Nat.mul_pos hden (Nat.two_pow_pos _)
  generalize num * 2 ^ (-e).toNat = n at h hhigh hlow
  generalize den * 2 ^ e.toNat = d at h hhigh hlow hden'
  have hd : (0 : ℚ) < d := Nat.cast_pos.mpr hden'
  have hle : nearest n d ≤ 2 ^ 53 := by
    refine nearest_le hden' ?_
    have := (div_lt_iff₀ hd).mp hhigh
    exact_mod_cast this.le
  have hge (hlt : -1074 < e) : 2 ^ 52 ≤ nearest n d := by
    refine le_nearest hden' ?_
    have := (le_div_iff₀ hd).mp (hlow hlt)
    exact_mod_cast this
  generalize nearest n d = m at h hle hge
  by_cases hm : m = 2 ^ Width.wide.bits
  · rw [if_pos hm] at h
    dsimp only at h
    split at h
    · contradiction
    · next hgreatest =>
      simp only [Width.wide] at hm hgreatest
      obtain rfl : ⟨negative, m / 2, e + 1⟩ = x := Double.finite.inj h
      exact ⟨by dsimp only; omega, by dsimp only; omega, by dsimp only; omega,
        by dsimp only; omega⟩
  · rw [if_neg hm] at h
    dsimp only at h
    split at h
    · contradiction
    · next hgreatest =>
      simp only [Width.wide] at hm hgreatest
      obtain rfl : ⟨negative, m, e⟩ = x := Double.finite.inj h
      exact ⟨hleast, by dsimp only; omega, by dsimp only; omega, hge⟩

end Round

end ActionTree
