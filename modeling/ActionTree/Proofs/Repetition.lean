import ActionTree.Proofs.Counting

/-!
# ActionTree.Proofs.Repetition

How often a loop runs that is given a count.

1. a count is no number of rounds: it is how far the bound is above the start, whatever the
   stride (`Host.progression_of_count`), and a bound that 64 bits do not hold is refused;
2. so there is a round for every stride that the count has room for, rounded up, and none if
   the stride is negative (`Progression.count_span`);
3. that is as many rounds as the count says only if it says none, if the stride is one, or if
   one stride forward is enough (`Progression.count_span_eq_iff`).
-/

namespace ActionTree

open Run

namespace Progression

/-! ## Counting from a start -/

/-- The way of a counter whose bound is so far above its start. -/
def span (start : Int) (count : Nat) (stride : Int) : Progression := ⟨start, start + count, stride⟩

theorem count_span (start : Int) (count : Nat) (stride : Int) :
    (span start count stride).count =
      if 0 < stride then ((count + stride - 1) / stride).toNat else 0 := by
  unfold Progression.count span
  dsimp only
  by_cases hpos : 0 < stride
  · rw [if_pos hpos, if_pos hpos, show start + count - start + stride - 1 = count + stride - 1
      by omega]
  · rw [if_neg hpos, if_neg hpos, Int.toNat_eq_zero]
    rcases Int.lt_or_eq_of_le (Int.not_lt.mp hpos) with hneg | rfl
    · have hless : start - (start + count) - stride - 1 < 1 * -stride := by omega
      have hquotient := Int.ediv_lt_of_lt_mul (by omega : 0 < -stride) hless
      omega
    · simp

/-- There is a round as long as its strides are fewer than the count. -/
theorem lt_count_span {start stride : Int} {count : Nat} (hne : stride ≠ 0) (k : Nat) :
    k < (span start count stride).count ↔ 0 < stride ∧ k * stride < count := by
  have hk : (0 : Int) ≤ k := Int.natCast_nonneg k
  rw [lt_count_iff (p := span start count stride) hne]
  simp only [Before, counter, span]
  constructor
  · rintro (⟨hpos, hlt⟩ | ⟨hneg, hlt⟩)
    · exact ⟨hpos, by omega⟩
    · have hmul : k * stride ≤ 0 := mul_nonpos_of_nonneg_of_nonpos hk hneg.le
      omega
  · rintro ⟨hpos, hlt⟩
    exact .inl ⟨hpos, by omega⟩

/-- A count is a number of rounds only if it is none, or the stride is one, or it is one and the
stride is positive. -/
theorem count_span_eq_iff {start stride : Int} {count : Nat} (hne : stride ≠ 0) :
    (span start count stride).count = count ↔
      count = 0 ∨ stride = 1 ∨ count = 1 ∧ 0 < stride := by
  have hround (k : Nat) : k < (span start count stride).count ↔ 0 < stride ∧ k * stride < count :=
    lt_count_span hne k
  constructor
  · intro hcount
    rw [hcount] at hround
    rcases Nat.lt_or_ge count 2 with hfew | hmany
    · rcases Nat.lt_or_ge count 1 with hnone | hone
      · exact .inl (by omega)
      · exact .inr (.inr ⟨by omega, ((hround 0).mp hone).1⟩)
    · -- the last round is fewer than `count` strides away, so a stride is less than two
      obtain ⟨hpos, hlast⟩ := (hround (count - 1)).mp (by omega)
      refine .inr (.inl ?_)
      rw [Nat.cast_sub (by omega)] at hlast
      by_contra hone
      have htwo : 2 ≤ stride := by omega
      have hmul : ((count : Int) - 1) * 2 ≤ ((count : Int) - 1) * stride :=
        mul_le_mul_of_nonneg_left htwo (by omega)
      push_cast at hlast
      omega
  · intro h
    have hle : ¬ count < (span start count stride).count := by
      rw [hround]
      rintro ⟨hpos, hlt⟩
      have hmul : (count : Int) * 1 ≤ count * stride :=
        mul_le_mul_of_nonneg_left (by omega) (Int.natCast_nonneg count)
      omega
    rcases h with rfl | rfl | ⟨rfl, hpos⟩
    · omega
    · have hge : count = 0 ∨ count - 1 < (span start count 1).count := by
        rcases Nat.eq_zero_or_pos count with hzero | hpos
        · exact .inl hzero
        · exact .inr ((hround _).mpr ⟨Int.one_pos, by omega⟩)
      omega
    · have hone : 0 < (span start 1 stride).count := (hround 0).mpr ⟨hpos, by simp⟩
      omega

/-! ## Rounds that all go on -/

/-- If no round is the last one, there is a round for every position, and the loop falls
through. -/
theorem length_tally_of_goesOn {p : Progression} {body : Run Flow} {field : Option String}
    {left position : Nat} {s : State}
    (hgoes : ∀ r ∈ (p.tally body field left position s).rounds, r.GoesOn) :
    (p.tally body field left position s).rounds.length = left ∧
      (p.tally body field left position s).result = .ok .next := by
  have hlength := lt_length_tally p body field left position s
  have hresult := result_tally p body field left position s
  generalize p.tally body field left position s = d at hgoes hlength hresult
  dsimp only at hlength hresult
  refine ⟨?_, ?_⟩
  · have hnot : ¬ d.rounds.length < left := fun hlt =>
      Nat.lt_irrefl _ ((hlength _).mpr ⟨hlt, fun j hj =>
        ⟨d.rounds[j], List.getElem?_eq_getElem hj, hgoes _ (List.getElem_mem hj)⟩⟩)
    have hle : d.rounds.length ≤ left := by
      by_contra hgt
      exact Nat.lt_irrefl _ ((hlength left).mp (by omega)).1
    omega
  · rw [hresult]
    cases hlast : d.rounds.getLast? with
    | none => rfl
    | some r => exact CounterRound.ending_of_goesOn (hgoes r (List.mem_of_getLast? hlast))

end Progression

/-! ## Loops with a count -/

namespace Host

variable {h : Host} {n : Node} {c : Context}

theorem integer?_of_not_hasAttr {key : String} (hkey : n.hasAttr key = false) :
    h.integer? n key c = .ok none := by
  rw [Node.hasAttr, Option.isSome_eq_false_iff, Option.isNone_iff_eq_none] at hkey
  rw [integer?, attr?, hkey]
  rfl

/-- The bound of a loop with a count is so far above its start, whatever the stride. -/
theorem progression_of_count {start? stride? : Option Int} {count : Nat}
    (hto : n.hasAttr "to" = false) (hstart : h.integer? n "from" c = .ok start?)
    (hcount : h.integer? n "count" c = .ok (some (count : Int)))
    (hstride : h.integer? n "step" c = .ok stride?) (hne : stride? ≠ some 0) :
    h.progression n c =
      if fitsInt64 (start?.getD 0 + count) then
        .ok (.span (start?.getD 0) count (stride?.getD 1))
      else .error (n.badAttribute "count" "overflows the counter") := by
  have hbound : h.bound n (start?.getD 0) c = if fitsInt64 (start?.getD 0 + count) then
      .ok (start?.getD 0 + count) else .error (n.badAttribute "count" "overflows the counter") := by
    rw [bound, integer?_of_not_hasAttr hto, hcount]
    rfl
  rw [progression, hstart]
  dsimp only
  rw [hbound]
  by_cases hfits : fitsInt64 (start?.getD 0 + count) = true
  · rw [if_pos hfits, if_pos hfits]
    dsimp only
    rw [hstride]
    exact if_neg hne
  · rw [if_neg hfits, if_neg hfits]

end Host

/-- What lies between two integers of 64 bits has 64 bits. -/
theorem fitsInt64_between {i j k : Int} (hi : fitsInt64 i = true) (hk : fitsInt64 k = true)
    (hij : i ≤ j) (hjk : j ≤ k) : fitsInt64 j = true := by
  simp only [fitsInt64, Bool.and_eq_true, decide_eq_true_eq] at hi hk ⊢
  omega

/-- The rounds of a loop are as many as it was told, with the positions from zero on and the
counters from its start on, and behind the last of them the loop falls through. -/
structure Counted.Repeats (d : Counted) (times : Nat) (start stride : Int) (body : Run Flow)
    (field : Option String) (s : State) : Prop where
  length : d.rounds.length = times
  /-- Every round begins where the one before it has ended. -/
  chain : s :: d.rounds.map CounterRound.after = d.rounds.map CounterRound.before ++ [d.state]
  has : ∀ (k : Nat) (r : CounterRound), d.rounds[k]? = some r →
    r.Has body field (start + k * stride) k
  result : d.result = .ok .next

/-- If no round is the last one, the rounds of a way are as many as its counters. -/
theorem Progression.repeats_tally {p : Progression} (hp : p.Fits) {body : Run Flow}
    {field : Option String} {s : State}
    (hgoes : ∀ r ∈ (p.tally body field p.count 0 s).rounds, r.GoesOn) :
    (p.tally body field p.count 0 s).Repeats p.count p.start p.stride body field s := by
  obtain ⟨hlength, hresult⟩ := length_tally_of_goesOn hgoes
  have hfollows := tally_follows hp body field s
  exact ⟨hlength, hfollows.chain, hfollows.has, hresult⟩

namespace Run

section Loop

variable {h : Host} {n : Node} {s : State} {start? stride? : Option Int} {count : Nat}

theorem execute_loop_of_count (fuel : Nat) (hi : h.registry.find? n.name = some .loop)
    (hcount : h.integer? n "count" s.scope = .ok (some (count : Int))) :
    execute h (fuel + 1) n s = finished n (countedLoop h (execute h fuel) n (beginning n s)) := by
  have hattr : n.hasAttr "count" = true := Host.hasAttr_of_integer? hcount
  rw [execute_known hi, perform, loop, hattr, Bool.or_true, if_pos rfl]
  rfl

/-- A loop with a count comes to what the rounds of its way come to. -/
theorem execute_counted (fuel : Nat) (hi : h.registry.find? n.name = some .loop)
    (hto : n.hasAttr "to" = false) (hstart : h.integer? n "from" s.scope = .ok start?)
    (hcount : h.integer? n "count" s.scope = .ok (some (count : Int)))
    (hstride : h.integer? n "step" s.scope = .ok stride?) (hne : stride? ≠ some 0)
    (hbound : fitsInt64 (start?.getD 0 + count) = true) :
    let p := Progression.span (start?.getD 0) count (stride?.getD 1)
    let d := p.tally (sequence (execute h fuel) n.children) (n.name? "field") p.count 0
      (beginning n s)
    execute h (fuel + 1) n s = finished n
      (d.result, { d.state with scope := d.state.scope.restore s.scope.save }) := by
  intro p d
  have hp : h.progression n (beginning n s).scope = .ok p :=
    (Host.progression_of_count hto hstart hcount hstride hne).trans (if_pos hbound)
  rw [execute_loop_of_count fuel hi hcount, countedLoop_eq_tally (execute h fuel) hp]
  rfl

/-- A count is refused that goes beyond 64 bits from the start, whatever the stride. -/
theorem execute_uncounted (fuel : Nat) (hi : h.registry.find? n.name = some .loop)
    (hto : n.hasAttr "to" = false) (hstart : h.integer? n "from" s.scope = .ok start?)
    (hcount : h.integer? n "count" s.scope = .ok (some (count : Int)))
    (hstride : h.integer? n "step" s.scope = .ok stride?) (hne : stride? ≠ some 0)
    (hbound : ¬ fitsInt64 (start?.getD 0 + count) = true) :
    execute h (fuel + 1) n s = finished n
      (.error (.error (n.badAttribute "count" "overflows the counter")), beginning n s) := by
  have hp : h.progression n (beginning n s).scope =
      .error (n.badAttribute "count" "overflows the counter") :=
    (Host.progression_of_count hto hstart hcount hstride hne).trans (if_neg hbound)
  rw [execute_loop_of_count fuel hi hcount, countedLoop, bind_apply, ask_apply, hp]
  rfl

/-- As many rounds as the count says need no more room than its strides. -/
theorem fitsInt64_bound (hstart : h.integer? n "from" s.scope = .ok start?)
    (hfits : fitsInt64 (start?.getD 0 + count * stride?.getD 1) = true)
    (hgood : count = 0 ∨ stride?.getD 1 = 1 ∨ count = 1 ∧ 0 < stride?.getD 1) :
    fitsInt64 (start?.getD 0 + count) = true := by
  have hfitsStart : fitsInt64 (start?.getD 0) = true :=
    Host.getD_integer?_fits hstart (by decide)
  refine fitsInt64_between hfitsStart hfits (by omega) ?_
  rcases hgood with hzero | hone | ⟨hone, hpos⟩
  · simp [hzero]
  · simp [hone]
  · simp only [hone, Nat.cast_one]
    omega

end Loop

/-- **A loop with a count runs its body so many times** if and only if the count is zero, or the
step is one, or the count is one and the step is positive.  For any other step it runs once for
every step that the count has room for, or not at all. -/
theorem counted_rounds_iff (h : Host) (fuel : Nat) (n : Node) (s : State)
    {start? stride? : Option Int} {count : Nat} (hi : h.registry.find? n.name = some .loop)
    (hto : n.hasAttr "to" = false) (hstart : h.integer? n "from" s.scope = .ok start?)
    (hcount : h.integer? n "count" s.scope = .ok (some (count : Int)))
    (hstride : h.integer? n "step" s.scope = .ok stride?) (hne : stride? ≠ some 0)
    (hfits : fitsInt64 (start?.getD 0 + count * stride?.getD 1) = true) :
    let start := start?.getD 0
    let stride := stride?.getD 1
    let p := Progression.span start count stride
    let body := sequence (execute h fuel) n.children
    let d := p.tally body (n.name? "field") p.count 0 (beginning n s)
    execute h (fuel + 1) n s = finished n
        (if fitsInt64 (start + count) then
          (d.result, { d.state with scope := d.state.scope.restore s.scope.save })
        else (.error (.error (n.badAttribute "count" "overflows the counter")), beginning n s)) ∧
      ((∀ r ∈ d.rounds, r.GoesOn) →
        d.rounds.length = (if 0 < stride then ((count + stride - 1) / stride).toNat else 0) ∧
        ((fitsInt64 (start + count) = true ∧
            d.Repeats count start stride body (n.name? "field") (beginning n s)) ↔
          count = 0 ∨ stride = 1 ∨ count = 1 ∧ 0 < stride)) := by
  intro start stride p body d
  have hne' : stride ≠ 0 := by
    cases stride? with
    | none => exact Int.one_ne_zero
    | some i => exact fun hi => hne (congrArg some hi)
  refine ⟨?_, fun hgoes => ?_⟩
  · by_cases hbound : fitsInt64 (start + count) = true
    · rw [if_pos hbound]
      exact execute_counted fuel hi hto hstart hcount hstride hne hbound
    · rw [if_neg hbound]
      exact execute_uncounted fuel hi hto hstart hcount hstride hne hbound
  · have hrounds : d.rounds.length = p.count := (Progression.length_tally_of_goesOn hgoes).1
    refine ⟨hrounds.trans (Progression.count_span start count stride), ?_⟩
    constructor
    · rintro ⟨-, hrepeats⟩
      exact (Progression.count_span_eq_iff hne').mp (hrounds.symm.trans hrepeats.length)
    · intro hgood
      have hbound : fitsInt64 (start + count) = true := fitsInt64_bound hstart hfits hgood
      have hp : h.progression n s.scope = .ok p :=
        (Host.progression_of_count hto hstart hcount hstride hne).trans (if_pos hbound)
      have hrepeats : d.Repeats p.count start stride body (n.name? "field") (beginning n s) :=
        Progression.repeats_tally (Host.progression_fits hp) hgoes
      rw [(Progression.count_span_eq_iff hne').mpr hgood] at hrepeats
      exact ⟨hbound, hrepeats⟩

/-- A loop that is told to run three times, two apart. -/
def threeTimes : Node :=
  { name := "loop", attributes := [("count", "3"), ("step", "2"), ("field", "i")],
    children := [{ name := "push", attributes := [("ref", "seen"), ("value", "{i}")] }] }

theorem counted_rounds_iff_threeTimes :
    let h := Host.ofLibrary {}
    let s := State.ofScope {}
    let p := Progression.span 0 3 2
    let body := sequence (execute h 3) threeTimes.children
    let d := p.tally body (some "i") p.count 0 (beginning threeTimes s)
    (h.registry.find? threeTimes.name = some .loop ∧ threeTimes.hasAttr "to" = false ∧
      h.integer? threeTimes "from" s.scope = .ok none ∧
      h.integer? threeTimes "count" s.scope = .ok (some 3) ∧
      h.integer? threeTimes "step" s.scope = .ok (some 2) ∧ (some 2 : Option Int) ≠ some 0 ∧
      fitsInt64 (0 + 3 * 2) = true) ∧
    execute h 4 threeTimes s = finished threeTimes
      (d.result, { d.state with scope := d.state.scope.restore s.scope.save }) ∧
    ((∀ r ∈ d.rounds, r.GoesOn) → d.rounds.length = 2) := by
  intro h s p body d
  have hstart : h.integer? threeTimes "from" s.scope = .ok none := rfl
  have hcount : h.integer? threeTimes "count" s.scope = .ok (some ((3 : Nat) : Int)) := by cbv
  have hstride : h.integer? threeTimes "step" s.scope = .ok (some 2) := by cbv
  have hne : (some 2 : Option Int) ≠ some 0 := by decide
  have hfield : threeTimes.name? "field" = some "i" := by decide +kernel
  have hloop := counted_rounds_iff h 3 threeTimes s rfl rfl hstart hcount hstride hne (by decide)
  rw [hfield] at hloop
  exact ⟨⟨rfl, rfl, hstart, hcount, hstride, hne, by decide⟩, hloop.1,
    fun hgoes => (hloop.2 hgoes).1⟩

/-- Whether a round is the last one can be decided. -/
instance (r : CounterRound) : Decidable r.GoesOn :=
  decidable_of_iff ((r.result.toOption.map fun flow => flow.ofRound.isNone) = some true) (by
    cases hr : r.result <;> simp [CounterRound.GoesOn, hr, Except.toOption])

/-- Only two rounds are run, though the count is three and no round is the last. -/
theorem count_is_no_number_of_rounds :
    let h := Host.ofLibrary {}
    let s := State.ofScope {}
    let p := Progression.span 0 3 2
    let d := p.tally (sequence (execute h 3) threeTimes.children) (some "i") p.count 0
      (beginning threeTimes s)
    (h.integer? threeTimes "count" s.scope = .ok (some 3) ∧
      h.integer? threeTimes "step" s.scope = .ok (some 2)) ∧
    execute h 4 threeTimes s = finished threeTimes
      (d.result, { d.state with scope := d.state.scope.restore s.scope.save }) ∧
    (d.rounds.length = 2 ∧ ∀ r ∈ d.rounds, r.GoesOn) ∧
    d.state.scope.fields = [("seen", .list [.text "0", .text "2"])] := by
  intro h s p d
  have hstart : h.integer? threeTimes "from" s.scope = .ok none := rfl
  have hcount : h.integer? threeTimes "count" s.scope = .ok (some ((3 : Nat) : Int)) := by cbv
  have hstride : h.integer? threeTimes "step" s.scope = .ok (some 2) := by cbv
  have hfield : threeTimes.name? "field" = some "i" := by decide +kernel
  have hloop := execute_counted 3 rfl rfl hstart hcount hstride (by decide) (by decide)
  rw [hfield] at hloop
  have hrounds : d.rounds.length = 2 ∧ ∀ r ∈ d.rounds, r.GoesOn := by decide +kernel
  have hseen : d.state.scope.fields = [("seen", .list [.text "0", .text "2"])] := by
    decide +kernel
  exact ⟨⟨hcount, hstride⟩, hloop, hrounds, hseen⟩

end Run

end ActionTree
