import Mathlib.Tactic.Ring
import ActionTree.Double

/-!
# ActionTree.Proofs.Rounding

The double nearest to an integer.

1. `nearest n d` is the integer nearest to `n / d`: no multiple of `d` is closer
   to `n` than the one that it counts, and it grows with `n`;
2. around an integer of more than 53 bits the doubles are a power of two apart
   (`spacing`), and `nearDouble` is the nearest multiple of that power;
3. of all numbers `m · 2 ^ k` with `m ≤ 2 ^ 53` it is the closest; these numbers
   are their own nearest doubles; and rounding never turns an order round;
4. the rounding that the doubles go by gives exactly this number
   (`ofRatio_whole`), so a double that comes from an integer is a whole number
   and compares as one (`Double.Is`).
-/

namespace ActionTree

/-! ## The nearest multiple -/

section Nearest

variable {n d : Nat}

/-- Rounding goes down or up, to what is at most half of `d` away. -/
theorem nearest_cases (n d : Nat) :
    nearest n d = n / d ∧ 2 * (n % d) ≤ d ∨ nearest n d = n / d + 1 ∧ d ≤ 2 * (n % d) := by
  unfold nearest
  dsimp only
  split
  · omega
  · split
    · omega
    · -- halfway the parity of the quotient decides
      rcases Nat.mod_two_eq_zero_or_one (n / d) with h | h <;> omega

theorem nearest_le {k : Nat} (hd : 0 < d) (h : n ≤ k * d) : nearest n d ≤ k := by
  have hdiv : n / d ≤ k := Nat.div_le_of_le_mul (by rwa [Nat.mul_comm])
  rcases nearest_cases n d with ⟨hdown, -⟩ | ⟨hup, hhalf⟩
  · rwa [hdown]
  · -- what is rounded up is not a multiple, so it lies below the bound
    have hne : n / d ≠ k := by
      rintro rfl
      have := Nat.div_add_mod n d
      rw [Nat.mul_comm] at this
      omega
    omega

theorem le_nearest {k : Nat} (hd : 0 < d) (h : k * d ≤ n) : k ≤ nearest n d := by
  have hdiv : k ≤ n / d := (Nat.le_div_iff_mul_le hd).2 h
  rcases nearest_cases n d with ⟨hdown, -⟩ | ⟨hup, -⟩ <;> omega

theorem nearest_mul (k : Nat) (hd : 0 < d) : nearest (k * d) d = k :=
  Nat.le_antisymm (nearest_le hd (Nat.le_refl _)) (le_nearest hd (Nat.le_refl _))

theorem nearest_mono {n' : Nat} (hd : 0 < d) (h : n ≤ n') : nearest n d ≤ nearest n' d := by
  rcases Nat.lt_or_eq_of_le (Nat.div_le_div_right h : n / d ≤ n' / d) with hlt | heq
  · have hn : n ≤ (n / d + 1) * d := Nat.le_of_lt (Nat.lt_mul_of_div_lt (Nat.lt_succ_self _) hd)
    have hn' : (n / d + 1) * d ≤ n' := (Nat.le_div_iff_mul_le hd).1 hlt
    exact Nat.le_trans (nearest_le hd hn) (le_nearest hd hn')
  · have hmod := Nat.div_add_mod n d
    have hmod' := Nat.div_add_mod n' d
    rw [← heq] at hmod'
    rcases nearest_cases n d with ⟨hn, hlow⟩ | ⟨hn, hlow⟩
    · rcases nearest_cases n' d with ⟨hn', -⟩ | ⟨hn', -⟩ <;> omega
    · rcases nearest_cases n' d with ⟨-, hhigh⟩ | ⟨hn', -⟩
      · -- the smaller one goes up and the greater one down only if both are the same half
        rw [show n = n' by omega]
      · omega

/-- The multiple that is counted lies within half of `d`. -/
theorem nearest_error (n : Nat) (hd : 0 < d) :
    2 * n ≤ 2 * (nearest n d * d) + d ∧ 2 * (nearest n d * d) ≤ 2 * n + d := by
  have hn := Nat.div_add_mod n d
  have hlt := Nat.mod_lt n hd
  rw [Nat.mul_comm] at hn
  rcases nearest_cases n d with ⟨hdown, hhalf⟩ | ⟨hup, hhalf⟩
  · rw [hdown]
    omega
  · rw [hup, Nat.add_mul, Nat.one_mul]
    omega

/-- No multiple of `d` is closer. -/
theorem nearest_closest (n k : Nat) (hd : 0 < d) :
    ((n : Int) - (nearest n d * d : Nat)).natAbs ≤ ((n : Int) - (k * d : Nat)).natAbs := by
  obtain ⟨hlow, hhigh⟩ := nearest_error n hd
  rcases Nat.lt_trichotomy k (nearest n d) with h | h | h
  · have : k * d + d ≤ nearest n d * d := by
      rw [← Nat.succ_mul]
      exact Nat.mul_le_mul_right d h
    omega
  · rw [h]
  · have : nearest n d * d + d ≤ k * d := by
      rw [← Nat.succ_mul]
      exact Nat.mul_le_mul_right d h
    omega

end Nearest

/-! ## Naturals -/

/-- How far the doubles around a natural number are apart. -/
def spacing (n : Nat) : Nat := 2 ^ (n.log2 - 52)

/-- The double nearest to a natural number. -/
def nearDouble (n : Nat) : Nat := nearest n (spacing n) * spacing n

/-- The naturals that a mantissa of 53 bits can write, whatever their size. -/
def Representable (n : Nat) : Prop := ∃ m k, m ≤ 2 ^ 53 ∧ n = m * 2 ^ k

theorem spacing_pos (n : Nat) : 0 < spacing n := Nat.two_pow_pos _

theorem spacing_of_lt {n : Nat} (h : n < 2 ^ 53) : spacing n = 1 := by
  rcases Nat.eq_zero_or_pos n with rfl | hn
  · rfl
  · have : n.log2 < 53 := (Nat.log2_lt (Nat.ne_of_gt hn)).2 h
    rw [spacing, Nat.sub_eq_zero_of_le (by omega), Nat.pow_zero]

/-- A number of more than 53 bits lies between `2 ^ 52` and `2 ^ 53` spacings. -/
theorem bounds_of_ge {n : Nat} (h : 2 ^ 53 ≤ n) :
    2 ^ 52 * spacing n ≤ n ∧ n ≤ 2 ^ 53 * spacing n := by
  have hn : n ≠ 0 := by omega
  have hlog : 53 ≤ n.log2 := (Nat.le_log2 hn).2 h
  have hlow : 2 ^ n.log2 ≤ n := Nat.log2_self_le hn
  have hhigh : n < 2 ^ (n.log2 + 1) := Nat.lt_log2_self
  constructor
  · rwa [spacing, ← Nat.pow_add, show 52 + (n.log2 - 52) = n.log2 by omega]
  · rw [spacing, ← Nat.pow_add, show 53 + (n.log2 - 52) = n.log2 + 1 by omega]
    exact Nat.le_of_lt hhigh

theorem nearDouble_of_lt {n : Nat} (h : n < 2 ^ 53) : nearDouble n = n := by
  rw [nearDouble, spacing_of_lt h, Nat.mul_one]
  simpa using nearest_mul n Nat.one_pos

theorem representable_nearDouble (n : Nat) : Representable (nearDouble n) := by
  rcases Nat.lt_or_ge n (2 ^ 53) with h | h
  · exact ⟨n, 0, Nat.le_of_lt h, by rw [nearDouble_of_lt h, Nat.pow_zero, Nat.mul_one]⟩
  · exact ⟨nearest n (spacing n), n.log2 - 52,
      nearest_le (spacing_pos n) (bounds_of_ge h).2, rfl⟩

/-- What can be written and is at least `2 ^ 52` spacings large is a multiple of
the spacing. -/
theorem Representable.eq_mul {r n : Nat} (hr : Representable r) (h : 2 ^ 52 * spacing n ≤ r) :
    ∃ j, r = j * spacing n := by
  obtain ⟨m, k, hm, rfl⟩ := hr
  rcases Nat.lt_or_ge k (n.log2 - 52) with hk | hk
  · -- a smaller power leaves room for `2 ^ 52` spacings only
    have hle : m * 2 ^ k ≤ 2 ^ 52 * spacing n :=
      calc m * 2 ^ k ≤ 2 ^ 53 * 2 ^ k := Nat.mul_le_mul_right _ hm
        _ = 2 ^ 52 * 2 ^ (k + 1) := by ring
        _ ≤ 2 ^ 52 * spacing n := Nat.mul_le_mul_left _ (Nat.pow_le_pow_right Nat.two_pos hk)
    exact ⟨2 ^ 52, Nat.le_antisymm hle h⟩
  · refine ⟨m * 2 ^ (k - (n.log2 - 52)), ?_⟩
    rw [spacing, Nat.mul_assoc, ← Nat.pow_add, Nat.sub_add_cancel hk]

theorem nearDouble_of_representable {n : Nat} (h : Representable n) : nearDouble n = n := by
  rcases Nat.lt_or_ge n (2 ^ 53) with hn | hn
  · exact nearDouble_of_lt hn
  · obtain ⟨j, hj⟩ := h.eq_mul (bounds_of_ge hn).1
    have hnear := nearest_mul j (spacing_pos n)
    rw [← hj] at hnear
    rw [nearDouble, hnear, ← hj]

theorem representable_of_le {n : Nat} (h : n ≤ 2 ^ 53) : Representable n := ⟨n, 0, h, by simp⟩

theorem nearDouble_mono {n n' : Nat} (h : n ≤ n') : nearDouble n ≤ nearDouble n' := by
  rcases Nat.lt_or_ge n (2 ^ 53) with hn | hn
  · rw [nearDouble_of_lt hn]
    rcases Nat.lt_or_ge n' (2 ^ 53) with hn' | hn'
    · rwa [nearDouble_of_lt hn']
    · have hlow : 2 ^ 52 ≤ nearest n' (spacing n') :=
        le_nearest (spacing_pos n') (bounds_of_ge hn').1
      have hspacing : 2 ≤ spacing n' := by
        have : 53 ≤ n'.log2 := (Nat.le_log2 (by omega)).2 hn'
        exact Nat.pow_le_pow_right Nat.two_pos (by omega : 1 ≤ n'.log2 - 52)
      calc n ≤ 2 ^ 52 * 2 := by omega
        _ ≤ nearDouble n' := Nat.mul_le_mul hlow hspacing
  · have hn' : 2 ^ 53 ≤ n' := Nat.le_trans hn h
    have hlog : n.log2 ≤ n'.log2 :=
      (Nat.le_log2 (by omega)).2 (Nat.le_trans (Nat.log2_self_le (by omega)) h)
    rcases Nat.lt_or_eq_of_le hlog with hlt | heq
    · -- between the two lies a power of two, `2 ^ 53` spacings of the smaller one
      have hstep : 2 * spacing n ≤ spacing n' := by
        have : 53 ≤ n.log2 := (Nat.le_log2 (by omega)).2 hn
        rw [spacing, spacing, ← Nat.pow_succ']
        exact Nat.pow_le_pow_right Nat.two_pos (by omega)
      calc nearDouble n ≤ 2 ^ 53 * spacing n :=
            Nat.mul_le_mul_right _ (nearest_le (spacing_pos n) (bounds_of_ge hn).2)
        _ = 2 ^ 52 * (2 * spacing n) := by ring
        _ ≤ 2 ^ 52 * spacing n' := Nat.mul_le_mul_left _ hstep
        _ ≤ nearDouble n' :=
            Nat.mul_le_mul_right _ (le_nearest (spacing_pos n') (bounds_of_ge hn').1)
    · have hspacing : spacing n = spacing n' := by rw [spacing, spacing, heq]
      rw [nearDouble, nearDouble, hspacing]
      exact Nat.mul_le_mul_right _ (nearest_mono (spacing_pos n') h)

/-- No number that can be written is closer. -/
theorem nearDouble_closest (n : Nat) {r : Nat} (hr : Representable r) :
    ((n : Int) - nearDouble n).natAbs ≤ ((n : Int) - r).natAbs := by
  rcases Nat.lt_or_ge n (2 ^ 53) with hn | hn
  · simp [nearDouble_of_lt hn]
  · rcases Nat.lt_or_ge r (2 ^ 52 * spacing n) with h | h
    · -- `2 ^ 52` spacings lie between the two
      have hlow := (bounds_of_ge hn).1
      have := nearest_closest n (2 ^ 52) (spacing_pos n)
      rw [nearDouble]
      omega
    · obtain ⟨j, rfl⟩ := hr.eq_mul h
      exact nearest_closest n j (spacing_pos n)

/-! ## Integers -/

/-- The double nearest to an integer. -/
def nearestDouble (n : Int) : Int := n.sign * nearDouble n.natAbs

theorem nearestDouble_ofNat (n : Nat) : nearestDouble n = nearDouble n := by
  rcases Nat.eq_zero_or_pos n with rfl | hn
  · rfl
  · simp [nearestDouble, Int.sign_eq_one_of_pos (by omega : (0 : Int) < n)]

theorem nearestDouble_neg (n : Int) : nearestDouble (-n) = -nearestDouble n := by
  simp [nearestDouble, Int.sign_neg]

theorem nearestDouble_eq (n : Int) :
    nearestDouble n = if n < 0 then -(nearDouble n.natAbs : Int) else nearDouble n.natAbs := by
  rcases Int.eq_nat_or_neg n with ⟨k, rfl | rfl⟩
  · simp [nearestDouble_ofNat]
  · rcases Nat.eq_zero_or_pos k with rfl | hk
    · rfl
    · simp [nearestDouble_neg, nearestDouble_ofNat, hk]

theorem nearestDouble_of_representable {n : Int} (h : Representable n.natAbs) :
    nearestDouble n = n := by
  rw [nearestDouble, nearDouble_of_representable h, Int.sign_mul_natAbs]

theorem nearestDouble_nonneg {n : Int} (h : 0 ≤ n) : 0 ≤ nearestDouble n := by
  obtain ⟨k, rfl⟩ := Int.eq_ofNat_of_zero_le h
  rw [nearestDouble_ofNat]
  omega

theorem nearestDouble_nonpos {n : Int} (h : n ≤ 0) : nearestDouble n ≤ 0 := by
  have := nearestDouble_nonneg (n := -n) (by omega)
  rw [nearestDouble_neg] at this
  omega

theorem nearestDouble_mono {m n : Int} (h : m ≤ n) : nearestDouble m ≤ nearestDouble n := by
  rcases Int.le_total 0 m with hm | hm
  · obtain ⟨j, rfl⟩ := Int.eq_ofNat_of_zero_le hm
    obtain ⟨k, rfl⟩ := Int.eq_ofNat_of_zero_le (Int.le_trans hm h)
    have := nearDouble_mono (by omega : j ≤ k)
    rw [nearestDouble_ofNat, nearestDouble_ofNat]
    omega
  · rcases Int.le_total 0 n with hn | hn
    · exact Int.le_trans (nearestDouble_nonpos hm) (nearestDouble_nonneg hn)
    · obtain ⟨j, hj⟩ := Int.eq_ofNat_of_zero_le (by omega : 0 ≤ -m)
      obtain ⟨k, hk⟩ := Int.eq_ofNat_of_zero_le (by omega : 0 ≤ -n)
      have := nearDouble_mono (by omega : k ≤ j)
      rw [← Int.neg_neg m, ← Int.neg_neg n, hj, hk, nearestDouble_neg, nearestDouble_neg,
        nearestDouble_ofNat, nearestDouble_ofNat]
      omega

/-- No integer that can be written is closer. -/
theorem nearestDouble_closest (n : Int) {r : Int} (hr : Representable r.natAbs) :
    (n - nearestDouble n).natAbs ≤ (n - r).natAbs := by
  have hsame := nearDouble_closest n.natAbs hr
  -- an integer of the other sign is farther away than zero, which can be written
  have hzero := nearDouble_closest n.natAbs (r := 0) ⟨0, 0, by decide, rfl⟩
  rw [nearestDouble_eq]
  split <;> omega

/-! ## Doubles without a fraction -/

/-- How many units of `Finite.units` there are in one. -/
def unitsInOne : Nat := 2 ^ 1074

theorem unitsInOne_pos : 0 < unitsInOne := by
  have hpos : ∀ t : Nat, 0 < 2 ^ t := Nat.two_pow_pos
  exact hpos 1074

namespace Finite

/-- A double without a fraction: its absolute value is the natural number `k`. -/
structure IsNat (x : Finite) (k : Nat) : Prop where
  least : -1074 ≤ x.exponent
  num : x.num = k * x.den

variable {x : Finite} {k : Nat}

theorem den_pos (x : Finite) : 0 < x.den := Nat.two_pow_pos _

theorem IsNat.isWhole (h : x.IsNat k) : x.isWhole = true := by
  simp [Finite.isWhole, h.num, Nat.mul_mod_left]

theorem IsNat.truncate (h : x.IsNat k) : x.truncate = if x.negative then -(k : Int) else k := by
  simp [Finite.truncate, h.num, Nat.mul_div_cancel _ x.den_pos]

theorem IsNat.of_nonneg (h : 0 ≤ x.exponent) (hk : x.mantissa * 2 ^ x.exponent.toNat = k) :
    x.IsNat k := by
  refine ⟨by omega, ?_⟩
  simp [Finite.num, Finite.den, hk, show (-x.exponent).toNat = 0 by omega]

theorem IsNat.of_nonpos (h : x.exponent ≤ 0) (hleast : -1074 ≤ x.exponent)
    (hk : x.mantissa = k * 2 ^ (-x.exponent).toNat) : x.IsNat k := by
  refine ⟨hleast, ?_⟩
  simp [Finite.num, Finite.den, hk, show x.exponent.toNat = 0 by omega]

/-- The absolute value over any power of two that the exponent reaches down to. -/
theorem IsNat.mantissa_mul (h : x.IsNat k) {t : Nat} (ht : -(t : Int) ≤ x.exponent) :
    x.mantissa * 2 ^ (x.exponent + t).toNat = k * 2 ^ t := by
  have hnum : x.mantissa * 2 ^ x.exponent.toNat = k * 2 ^ (-x.exponent).toNat := h.num
  rcases Int.le_total 0 x.exponent with he | he
  · rw [show (-x.exponent).toNat = 0 by omega, Nat.pow_zero, Nat.mul_one] at hnum
    rw [show (x.exponent + t).toNat = x.exponent.toNat + t by omega, Nat.pow_add,
      ← Nat.mul_assoc, hnum]
  · rw [show x.exponent.toNat = 0 by omega, Nat.pow_zero, Nat.mul_one] at hnum
    rw [hnum, Nat.mul_assoc, ← Nat.pow_add,
      show (-x.exponent).toNat + (x.exponent + t).toNat = t by omega]

theorem IsNat.units (h : x.IsNat k) :
    x.units = if x.negative then -(k * unitsInOne : Int) else k * unitsInOne := by
  have hmul : x.mantissa * 2 ^ (x.exponent + 1074).toNat = k * unitsInOne :=
    h.mantissa_mul (t := 1074) h.least
  simp only [Finite.units, pow2, Nat.pow_eq, hmul, Int.natCast_mul]

end Finite

/-! ## Rounding -/

section Round

variable {w : Width} {num den m : Nat} {e : Int}

theorem Width.round_of_lt (negative : Bool) (h0 : num ≠ 0) (he : w.scale num den = e)
    (hm : nearest (num * 2 ^ (-e).toNat) (den * 2 ^ e.toNat) = m) (hlt : m < 2 ^ w.bits)
    (hgreatest : e ≤ w.greatest) : w.round negative num den = .finite ⟨negative, m, e⟩ := by
  simp only [Width.round, if_neg h0, he, pow2, Nat.pow_eq, hm, if_neg (Nat.ne_of_lt hlt)]
  rw [if_neg (Int.not_lt.2 hgreatest)]

/-- A mantissa one bit too long is halved. -/
theorem Width.round_of_eq (negative : Bool) (h0 : num ≠ 0) (he : w.scale num den = e)
    (hm : nearest (num * 2 ^ (-e).toNat) (den * 2 ^ e.toNat) = 2 ^ w.bits)
    (hgreatest : e + 1 ≤ w.greatest) :
    w.round negative num den = .finite ⟨negative, 2 ^ w.bits / 2, e + 1⟩ := by
  simp only [Width.round, if_neg h0, he, pow2, Nat.pow_eq, hm, if_true]
  rw [if_neg (Int.not_lt.2 hgreatest)]

end Round

/-- The exponent of a natural number: what is above 53 bits. -/
theorem Width.scale_one {n : Nat} (h : n ≠ 0) : Width.wide.scale n 1 = (n.log2 : Int) - 52 := by
  have hlow : 2 ^ n.log2 ≤ n := Nat.log2_self_le h
  have hlong : 2 ^ 53 ≤
      n * 2 ^ (-((n.log2 : Int) - 53)).toNat / 2 ^ ((n.log2 : Int) - 53).toNat := by
    rcases Nat.lt_or_ge n.log2 53 with hl | hl
    · rw [show ((n.log2 : Int) - 53).toNat = 0 by omega, Nat.pow_zero, Nat.div_one,
        show (-((n.log2 : Int) - 53)).toNat = 53 - n.log2 by omega]
      calc 2 ^ 53 = 2 ^ n.log2 * 2 ^ (53 - n.log2) := by
            rw [← Nat.pow_add, Nat.add_sub_cancel' (Nat.le_of_lt hl)]
        _ ≤ n * 2 ^ (53 - n.log2) := Nat.mul_le_mul_right _ hlow
    · rw [show (-((n.log2 : Int) - 53)).toNat = 0 by omega, Nat.pow_zero, Nat.mul_one,
        show ((n.log2 : Int) - 53).toNat = n.log2 - 53 by omega,
        Nat.le_div_iff_mul_le (Nat.two_pow_pos _), ← Nat.pow_add, Nat.add_sub_cancel' hl]
      exact hlow
  have hone : Nat.log2 1 = 0 := rfl
  simp only [Width.scale, Width.wide, hone, pow2, Nat.pow_eq, Nat.one_mul, Int.ofNat_zero,
    Int.sub_zero, Nat.cast_ofNat]
  rw [if_neg (Nat.not_lt.2 hlong)]
  omega

/-- The double nearest to a natural number is the number that `nearDouble` says. -/
theorem ofRatio_whole (negative : Bool) {n : Nat} (h : n.log2 < 1023) :
    ∃ x : Finite, Double.ofRatio negative n 1 = .finite x ∧ x.negative = negative ∧
      x.IsNat (nearDouble n) := by
  rcases Nat.eq_zero_or_pos n with rfl | hn
  · exact ⟨⟨negative, 0, -1074⟩, rfl, rfl, Int.le_refl _, by simp [Finite.num, nearDouble_of_lt]⟩
  have h0 : n ≠ 0 := Nat.ne_of_gt hn
  rcases Nat.lt_or_ge n (2 ^ 53) with hs | hs
  · -- a short number is written as it is, its mantissa filled up to 53 bits
    have hl : n.log2 < 53 := (Nat.log2_lt h0).2 hs
    have hup : (-((n.log2 : Int) - 52)).toNat = 52 - n.log2 := by omega
    have hdown : ((n.log2 : Int) - 52).toNat = 0 := by omega
    have hnear : nearest (n * 2 ^ (-((n.log2 : Int) - 52)).toNat)
        (1 * 2 ^ ((n.log2 : Int) - 52).toNat) = n * 2 ^ (52 - n.log2) := by
      have := nearest_mul (n * 2 ^ (52 - n.log2)) Nat.one_pos
      rw [Nat.mul_one] at this
      rwa [hup, hdown, Nat.pow_zero]
    have hfull : n * 2 ^ (52 - n.log2) < 2 ^ 53 :=
      calc n * 2 ^ (52 - n.log2) < 2 ^ (n.log2 + 1) * 2 ^ (52 - n.log2) :=
            Nat.mul_lt_mul_of_pos_right Nat.lt_log2_self (Nat.two_pow_pos _)
        _ = 2 ^ 53 := by rw [← Nat.pow_add, show n.log2 + 1 + (52 - n.log2) = 53 by omega]
    refine ⟨_, Width.round_of_lt negative h0 (Width.scale_one h0) hnear hfull ?_, rfl, ?_⟩
    · simp only [Width.wide]
      omega
    · rw [nearDouble_of_lt hs]
      exact .of_nonpos (by simp only; omega) (by simp only; omega) (by rw [hup])
  · have hl : 53 ≤ n.log2 := (Nat.le_log2 h0).2 hs
    have hup : (-((n.log2 : Int) - 52)).toNat = 0 := by omega
    have hdown : ((n.log2 : Int) - 52).toNat = n.log2 - 52 := by omega
    have hnear : nearest (n * 2 ^ (-((n.log2 : Int) - 52)).toNat)
        (1 * 2 ^ ((n.log2 : Int) - 52).toNat) = nearest n (spacing n) := by
      rw [hup, hdown, Nat.pow_zero, Nat.mul_one, Nat.one_mul, spacing]
    rcases Nat.lt_or_eq_of_le (nearest_le (spacing_pos n) (bounds_of_ge hs).2) with hlt | heq
    · refine ⟨_, Width.round_of_lt negative h0 (Width.scale_one h0) hnear hlt ?_, rfl, ?_⟩
      · simp only [Width.wide]
        omega
      · exact .of_nonneg (by simp only; omega) (by rw [hdown, nearDouble, spacing])
    · -- `2 ^ 53` spacings are `2 ^ 52` of the next size
      rw [heq] at hnear
      refine ⟨_, Width.round_of_eq negative h0 (Width.scale_one h0) hnear ?_, rfl, ?_⟩
      · simp only [Width.wide]
        omega
      · refine .of_nonneg (by simp only; omega) ?_
        rw [nearDouble, heq, spacing,
          show ((n.log2 : Int) - 52 + 1).toNat = n.log2 - 52 + 1 by omega, Nat.pow_succ]
        simp only [Width.wide]
        ring

/-! ## The doubles of integers -/

namespace Double

/-- A double that is a whole number: `k`. -/
def Is (d : Double) (k : Int) : Prop := ∃ x : Finite, d = .finite x ∧ x.units = k * unitsInOne

theorem is_of_isNat {x : Finite} {k : Nat} (h : x.IsNat k) :
    (Double.finite x).Is (if x.negative then -(k : Int) else k) := by
  refine ⟨x, rfl, ?_⟩
  rw [h.units]
  split
  · rw [Int.neg_mul]
  · rfl

/-- Whole numbers compare as integers. -/
theorem Is.compare? {d d' : Double} {j k : Int} (h : d.Is j) (h' : d'.Is k) :
    compare? d d' = some (orderInt j k) := by
  obtain ⟨x, rfl, hx⟩ := h
  obtain ⟨y, rfl, hy⟩ := h'
  have hpos : (0 : Int) < unitsInOne := Int.natCast_pos.2 unitsInOne_pos
  simp only [Double.compare?, orderInt, hx, hy, Int.mul_lt_mul_right hpos,
    Int.mul_eq_mul_right_iff (Int.ne_of_gt hpos)]

/-- The double of an integer is the nearest one, unless the integer is too large
for a double. -/
theorem ofInt_is {n : Int} (h : n.natAbs.log2 < 1023) : (ofInt n).Is (nearestDouble n) := by
  obtain ⟨x, hx, hneg, hwhole⟩ := ofRatio_whole (n < 0) h
  have his := is_of_isNat hwhole
  rw [← hx, hneg] at his
  rw [nearestDouble_eq, ofInt]
  simpa only [decide_eq_true_eq] using his

end Double

end ActionTree
