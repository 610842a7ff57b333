import ActionTree.Proofs.Run

/-!
# ActionTree.Proofs.Counter

The counters of a loop, as integers without bounds.

1. the counter at a position is the start and so many strides (`Progression.counter`), and
   so many counters are before the bound (`Progression.count`, `lt_count_iff`);
2. whatever is read from an attribute fits 64 bits (`integer?_fits`), and so do all counters
   before the bound (`fits_counter`).  A counter that does not fit is never before it;
3. the rounds along a counter's way are one for every position below `count`, with its own
   counter, though the loop that runs them knows neither
   (`roundsAlong_eq_roundsWithin`).
-/

namespace ActionTree

/-! ## Integers of attributes -/

/-- What is held to 64 bits fits them. -/
theorem fitsInt64_of_integerOfText {s : String} {i : Int} (h : integerOfText s = some i) :
    fitsInt64 i = true := by
  have hheld (h : (Double.read? s).bind Double.toInt64? = some i) : fitsInt64 i = true := by
    obtain ⟨d, -, hd⟩ := Option.bind_eq_some_iff.mp h
    cases d with
    | finite x =>
      obtain rfl := Option.some.inj hd
      simp only [fitsInt64, Bool.and_eq_true, decide_eq_true_eq]
      exact ⟨le_max_left _ _, max_le (by decide) (min_le_left _ _)⟩
    | _ => contradiction
  unfold integerOfText at h
  split at h
  · split at h
    · next n _ hn => exact Option.some.inj h ▸ hn
    · exact hheld h
  · exact hheld h

namespace Host

variable {h : Host} {n : Node} {c : Context}

theorem integer?_fits {key : String} {i : Int} (hi : h.integer? n key c = .ok (some i)) :
    fitsInt64 i = true := by
  unfold integer? at hi
  split at hi
  · contradiction
  · exact absurd (Except.ok.inj hi) nofun
  · split at hi
    · next hread =>
      obtain rfl := Option.some.inj (Except.ok.inj hi)
      exact fitsInt64_of_integerOfText hread
    · contradiction

/-- An attribute that an integer is read from is there. -/
theorem hasAttr_of_integer? {key : String} {i : Int} (hi : h.integer? n key c = .ok (some i)) :
    n.hasAttr key = true := by
  rw [Node.hasAttr]
  cases hattr : n.attr? key with
  | some text => rfl
  | none =>
    rw [integer?, attr?, hattr] at hi
    exact absurd (Except.ok.inj hi) nofun

/-- An integer that is not there counts as one that fits. -/
theorem getD_integer?_fits {key : String} {i? : Option Int} (hi : h.integer? n key c = .ok i?)
    {absent : Int} (habsent : fitsInt64 absent = true) : fitsInt64 (i?.getD absent) = true := by
  cases i? with
  | none => exact habsent
  | some i => exact integer?_fits hi

theorem bound_fits {start bound : Int} (hb : h.bound n start c = .ok bound) :
    fitsInt64 bound = true := by
  unfold Host.bound at hb
  split at hb
  · contradiction
  · next hto => exact Except.ok.inj hb ▸ integer?_fits hto
  · split at hb
    · contradiction
    · split at hb
      · next hsum => exact Except.ok.inj hb ▸ hsum
      · contradiction

end Host

namespace Progression

/-! ## The counter at a position -/

/-- How many counters there are before the bound. -/
def count (p : Progression) : Nat :=
  if 0 < p.stride then ((p.bound - p.start + p.stride - 1) / p.stride).toNat
  else ((p.start - p.bound - p.stride - 1) / -p.stride).toNat

/-- The counter at a position. -/
def counter (p : Progression) (position : Nat) : Int := p.start + position * p.stride

variable {p : Progression}

theorem counter_zero : p.counter 0 = p.start := by simp [counter]

theorem counter_succ (k : Nat) : p.counter (k + 1) = p.counter k + p.stride := by
  simp only [counter, Nat.cast_add, Nat.cast_one]
  ring

/-- A counter lies strictly before the bound in the direction of the stride. -/
def Before (p : Progression) (counter : Int) : Prop :=
  (0 < p.stride ∧ counter < p.bound) ∨ (p.stride < 0 ∧ p.bound < counter)

theorem isBefore_iff {counter : Int} : p.isBefore counter = true ↔ p.Before counter := by
  simp only [isBefore, Before, Bool.or_eq_true, Bool.and_eq_true, decide_eq_true_eq]

/-- The positions below the count are those whose counters are before the bound. -/
theorem lt_count_iff (hstride : p.stride ≠ 0) (k : Nat) :
    k < p.count ↔ p.Before (p.counter k) := by
  rw [Before, count, counter]
  rcases Int.lt_or_gt_of_ne hstride with hneg | hpos
  · have hdiv : (k : Int) < (p.start - p.bound - p.stride - 1) / -p.stride ↔
        (k + 1) * -p.stride ≤ p.start - p.bound - p.stride - 1 := by
      rw [← Int.add_one_le_iff, Int.le_ediv_iff_mul_le (by omega)]
    have hmul : ((k : Int) + 1) * -p.stride = -(k * p.stride) - p.stride := by ring
    rw [if_neg (by omega), Int.lt_toNat, hdiv, hmul]
    omega
  · have hdiv : (k : Int) < (p.bound - p.start + p.stride - 1) / p.stride ↔
        (k + 1) * p.stride ≤ p.bound - p.start + p.stride - 1 := by
      rw [← Int.add_one_le_iff, Int.le_ediv_iff_mul_le hpos]
    have hmul : ((k : Int) + 1) * p.stride = k * p.stride + p.stride := by ring
    rw [if_pos hpos, Int.lt_toNat, hdiv, hmul]
    omega

/-! ## What fits -/

/-- A way whose start and bound fit 64 bits, and that leads somewhere. -/
structure Fits (p : Progression) : Prop where
  start : fitsInt64 p.start = true
  bound : fitsInt64 p.bound = true
  stride : p.stride ≠ 0

/-- Every counter before the bound is between the start and the bound. -/
theorem fits_counter (hp : p.Fits) {k : Nat} (hk : k < p.count) :
    fitsInt64 (p.counter k) = true := by
  have hstart := hp.start
  have hbound := hp.bound
  simp only [fitsInt64, Bool.and_eq_true, decide_eq_true_eq] at hstart hbound ⊢
  have hk0 : (0 : Int) ≤ k := Int.natCast_nonneg k
  rcases (lt_count_iff hp.stride k).mp hk with ⟨hpos, hlt⟩ | ⟨hneg, hlt⟩
  · have hmul : 0 ≤ k * p.stride := mul_nonneg hk0 hpos.le
    rw [counter] at hlt ⊢
    omega
  · have hmul : k * p.stride ≤ 0 := mul_nonpos_of_nonneg_of_nonpos hk0 hneg.le
    rw [counter] at hlt ⊢
    omega

/-- The next counter is the one at the next position, unless there is none before the bound:
then 64 bits may not hold it. -/
theorem next?_counter (hp : p.Fits) {k : Nat} (hk : k < p.count) :
    p.next? (p.counter k) = some (p.counter (k + 1)) ∨
      p.next? (p.counter k) = none ∧ k + 1 = p.count := by
  simp only [next?, ← counter_succ]
  by_cases hfits : fitsInt64 (p.counter (k + 1)) = true
  · exact .inl (if_pos hfits)
  · refine .inr ⟨if_neg hfits, ?_⟩
    have hnot : ¬ k + 1 < p.count := fun hlt => hfits (fits_counter hp hlt)
    omega

end Progression

theorem Host.progression_fits {h : Host} {n : Node} {c : Context} {p : Progression}
    (hp : h.progression n c = .ok p) : p.Fits := by
  unfold progression at hp
  split at hp
  · contradiction
  · next start hstart =>
    split at hp
    · contradiction
    · next bound hbound =>
      split at hp
      · contradiction
      · next stride _ =>
        split at hp
        · contradiction
        · next hne =>
          obtain rfl := Except.ok.inj hp
          refine ⟨getD_integer?_fits hstart (by decide), bound_fits hbound, ?_⟩
          cases stride with
          | none => exact Int.one_ne_zero
          | some i => exact fun hi => hne (congrArg some hi)

namespace Run

/-! ## Rounds -/

/-- Rounds along a counter's way are rounds with positions alone, one for every counter before
the bound. -/
theorem roundsAlong_eq_roundsWithin {p : Progression} (hp : p.Fits)
    {round : Int → Nat → Run (Option Flow)} {round' : Nat → Run (Option Flow)}
    (hround : ∀ k, k < p.count → round (p.counter k) k = round' k)
    (hend : round' p.count = pure (some .next)) :
    roundsAlong p round p.start 0 = roundsWithin round' (p.count + 1) 0 := by
  have hbefore (k : Nat) : p.isBefore (p.counter k) = true ↔ k < p.count :=
    Progression.isBefore_iff.trans (Progression.lt_count_iff hp.stride k).symm
  have hdone : roundsAlong p round (p.counter p.count) p.count = pure .next := by
    rw [roundsAlong_eq, if_neg fun h => Nat.lt_irrefl _ ((hbefore _).mp h)]
  have hfrom (left k : Nat) (hk : k + left = p.count) :
      roundsAlong p round (p.counter k) k = roundsWithin round' (left + 1) k := by
    induction left generalizing k with
    | zero =>
      obtain rfl : k = p.count := hk
      rw [hdone, roundsWithin, hend]
      rfl
    | succ left ih =>
      have hlt : k < p.count := by omega
      rw [roundsAlong_eq, if_pos ((hbefore k).mpr hlt), hround k hlt, roundsWithin,
        ← ih (k + 1) (by omega)]
      refine congrArg (roundThen (round' k)) ?_
      rcases Progression.next?_counter hp hlt with hnext | ⟨hnext, hlast⟩
      · rw [hnext]
      · -- There is no further round, whether or not the next counter fits.
        rw [hnext, hlast, hdone]
  have hstart := hfrom p.count 0 (Nat.zero_add _)
  rwa [Progression.counter_zero] at hstart

end Run

end ActionTree
