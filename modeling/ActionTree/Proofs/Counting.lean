import ActionTree.Proofs.Cycle
import ActionTree.Proofs.LoopFold

/-!
# ActionTree.Proofs.Counting

A loop over a counter goes along an arithmetic progression.

1. the round at a position begins with the counter that is so many strides from the start, in
   integers without bounds, and with its position; all else is as the round before has left
   it (`CounterRound.Has`);
2. there is a round at a position exactly if no counter up to there has reached the bound and
   no round before was the last one (`lt_length_tally`);
3. the loop comes to what its last round came to (`result_tally`), so it ends if every body
   does.

`Progression.tally` writes the rounds down, which the loop itself does not: it holds one
counter at a time, in 64 bits.
-/

namespace ActionTree

open Run

/-! ## Rounds -/

/-- A round of a loop over a counter: the state it was begun in, the state that its body was
begun in, and what that came to. -/
structure CounterRound where
  before : State
  begun : State
  result : Except Failure Flow
  after : State

namespace CounterRound

/-- The round is not the last one. -/
def GoesOn (r : CounterRound) : Prop := ∃ flow, r.result = .ok flow ∧ flow.ofRound = none

/-- What a loop comes to whose last round this is. -/
def ending (r : CounterRound) : Except Failure Flow :=
  r.result.map fun flow => flow.ofRound.getD .next

theorem ending_of_goesOn {r : CounterRound} (h : r.GoesOn) : r.ending = .ok .next := by
  obtain ⟨flow, hflow, hround⟩ := h
  rw [ending, hflow, Except.map, hround, Option.getD_none]

theorem ending_ne_outOfFuel {r : CounterRound} (h : r.result ≠ .error .outOfFuel) :
    r.ending ≠ .error .outOfFuel := by
  rw [ending]
  cases hr : r.result with
  | ok flow => nofun
  | error failure =>
    rw [hr] at h
    exact h

/-- The body has found a counter under the field, if one is named, and a position; and all else
as it was. -/
structure Has (r : CounterRound) (body : Run Flow) (field : Option String) (counter : Int)
    (position : Nat) : Prop where
  form : r.begun.scope.form = match field with
    | some f => Record.assign r.before.scope.form f (.int counter)
    | none => r.before.scope.form
  index : r.begun.scope.index = some position
  rest : r.begun = { r.before with
    scope := { r.before.scope with
      form := r.begun.scope.form, index := r.begun.scope.index } }
  ran : body r.begun = (r.result, r.after)

end CounterRound

/-- What a loop over a counter came to: its rounds, its result and its last state. -/
structure Counted where
  rounds : List CounterRound
  result : Except Failure Flow
  state : State

/-- A round before others. -/
def Counted.behind (d : Counted) (r : CounterRound) : Counted := { d with rounds := r :: d.rounds }

namespace Progression

variable (p : Progression) (body : Run Flow) (field : Option String)

/-- The scope that a body begins in. -/
def begin (c : Context) (position : Nat) : Context :=
  { (match field with
      | some _ => c.bind (.int (p.counter position)) field
      | none => c) with index := some position }

/-- So many rounds from a position on, or fewer if one of them is the last. -/
def tally : (left : Nat) → (position : Nat) → State → Counted
  | 0, _, s => ⟨[], .ok .next, s⟩
  | left + 1, position, s =>
    let begun := { s with scope := p.begin field s.scope position }
    let (result, after) := body begun
    let r : CounterRound := ⟨s, begun, result, after⟩
    match result with
    | .error failure => ⟨[r], .error failure, after⟩
    | .ok flow =>
      match flow.ofRound with
      | some last => ⟨[r], .ok last, after⟩
      | none => (tally left (position + 1) after).behind r

variable {p body field}

theorem has_begun {s after : State} {position : Nat} {result : Except Failure Flow}
    (hrun : body { s with scope := p.begin field s.scope position } = (result, after)) :
    CounterRound.Has ⟨s, { s with scope := p.begin field s.scope position }, result, after⟩ body
      field (p.counter position) position := by
  cases field with
  | none => exact ⟨rfl, rfl, rfl, hrun⟩
  | some f => exact ⟨rfl, rfl, rfl, hrun⟩

/-- A round has the counter of its position, and it is the last one, or the rest of the rounds
begins where it has ended. -/
theorem tally_succ (p : Progression) (body : Run Flow) (field : Option String)
    (left position : Nat) (s : State) :
    ∃ r, r.before = s ∧ r.Has body field (p.counter position) position ∧
      (¬ r.GoesOn ∧ p.tally body field (left + 1) position s = ⟨[r], r.ending, r.after⟩ ∨
        r.GoesOn ∧ p.tally body field (left + 1) position s =
          (p.tally body field left (position + 1) r.after).behind r) := by
  rw [tally]
  dsimp only
  rcases hrun : body { s with scope := p.begin field s.scope position } with
    ⟨failure | flow, after⟩
  · exact ⟨_, rfl, has_begun hrun, .inl ⟨nofun, rfl⟩⟩
  · refine ⟨_, rfl, has_begun hrun, ?_⟩
    dsimp only
    cases hround : flow.ofRound with
    | none => exact .inr ⟨⟨flow, rfl, hround⟩, rfl⟩
    | some last =>
      refine .inl ⟨?_, ?_⟩
      · rintro ⟨flow', hflow', hnone⟩
        obtain rfl : flow = flow' := Except.ok.inj hflow'
        rw [hround] at hnone
        contradiction
      · simp only [CounterRound.ending, Except.map, hround, Option.getD_some]

/-! ## Runs -/

/-- Every round begins where the one before it has ended. -/
theorem chain_tally (left position : Nat) (s : State) :
    let d := p.tally body field left position s
    s :: d.rounds.map CounterRound.after = d.rounds.map CounterRound.before ++ [d.state] := by
  induction left generalizing position s with
  | zero => rfl
  | succ left ih =>
    obtain ⟨r, rfl, -, ⟨-, hd⟩ | ⟨-, hd⟩⟩ :=
      tally_succ p body field left position s
    · rw [hd]
      rfl
    · rw [hd]
      exact congrArg (r.before :: ·) (ih (position + 1) r.after)

theorem has_tally (left position : Nat) (s : State) (k : Nat) (r : CounterRound)
    (hr : (p.tally body field left position s).rounds[k]? = some r) :
    r.Has body field (p.counter (position + k)) (position + k) := by
  induction left generalizing position s k with
  | zero => contradiction
  | succ left ih =>
    obtain ⟨first, -, hfirst, ⟨-, hd⟩ | ⟨-, hd⟩⟩ :=
      tally_succ p body field left position s
    · rw [hd] at hr
      cases k with
      | zero => exact Option.some.inj hr ▸ hfirst
      | succ k => contradiction
    · rw [hd] at hr
      cases k with
      | zero => exact Option.some.inj hr ▸ hfirst
      | succ k =>
        have hrest := ih (position + 1) first.after k hr
        rwa [show position + 1 + k = position + (k + 1) by omega] at hrest

/-- There is a round at a position if there is room for it, and no round before is the last. -/
theorem lt_length_tally (p : Progression) (body : Run Flow) (field : Option String)
    (left position : Nat) (s : State) (k : Nat) :
    let d := p.tally body field left position s
    k < d.rounds.length ↔ k < left ∧ ∀ j < k, ∃ r, d.rounds[j]? = some r ∧ r.GoesOn := by
  induction left generalizing position s k with
  | zero => exact iff_of_false (Nat.not_lt_zero k) fun h => Nat.not_lt_zero k h.1
  | succ left ih =>
    obtain ⟨first, -, -, ⟨hlast, hd⟩ | ⟨hgoes, hd⟩⟩ :=
      tally_succ p body field left position s
    · rw [hd]
      cases k with
      | zero => exact iff_of_true Nat.one_pos ⟨Nat.succ_pos left, nofun⟩
      | succ k =>
        refine iff_of_false (fun h => Nat.not_lt_zero k (Nat.lt_of_succ_lt_succ h)) ?_
        rintro ⟨-, hbefore⟩
        obtain ⟨r, hr, hgoes⟩ := hbefore 0 (Nat.succ_pos k)
        exact hlast (Option.some.inj hr ▸ hgoes)
    · rw [hd]
      cases k with
      | zero => exact iff_of_true (Nat.succ_pos _) ⟨Nat.succ_pos left, nofun⟩
      | succ k =>
        have hrest := ih (position + 1) first.after k
        simp only [Counted.behind, List.length_cons, Nat.succ_lt_succ_iff, hrest]
        refine and_congr_right fun _ => ⟨fun hbefore j hj => ?_, fun hbefore j hj =>
          hbefore (j + 1) (Nat.succ_lt_succ hj)⟩
        cases j with
        | zero => exact ⟨first, rfl, hgoes⟩
        | succ j => exact hbefore j (Nat.lt_of_succ_lt_succ hj)

theorem result_tally (p : Progression) (body : Run Flow) (field : Option String)
    (left position : Nat) (s : State) :
    let d := p.tally body field left position s
    d.result = (d.rounds.getLast?.map CounterRound.ending).getD (.ok .next) := by
  induction left generalizing position s with
  | zero => rfl
  | succ left ih =>
    obtain ⟨r, -, -, ⟨-, hd⟩ | ⟨hgoes, hd⟩⟩ :=
      tally_succ p body field left position s
    · rw [hd]
      rfl
    · rw [hd]
      have hrest := ih (position + 1) r.after
      simp only [Counted.behind, List.getLast?_cons] at hrest ⊢
      rw [hrest]
      cases (p.tally body field left (position + 1) r.after).rounds.getLast? with
      | none => exact (CounterRound.ending_of_goesOn hgoes).symm
      | some last => rfl

end Progression

/-! ## Loops -/

/-- What the rounds of a loop come to whose counter goes this way, and that was begun in `s`. -/
structure Counted.Follows (d : Counted) (p : Progression) (body : Run Flow)
    (field : Option String) (s : State) : Prop where
  /-- Every round begins where the one before it has ended. -/
  chain : s :: d.rounds.map CounterRound.after = d.rounds.map CounterRound.before ++ [d.state]
  /-- The counter at a position is the start and so many strides. -/
  has : ∀ (k : Nat) (r : CounterRound), d.rounds[k]? = some r →
    r.Has body field (p.start + k * p.stride) k
  /-- There is a round for every counter before the bound, until one is the last. -/
  reaches : ∀ k : Nat, k < d.rounds.length ↔
    (∀ j : Nat, j ≤ k → p.Before (p.start + j * p.stride)) ∧
      ∀ j < k, ∃ r, d.rounds[j]? = some r ∧ r.GoesOn
  /-- No counter has wrapped. -/
  fits : ∀ k : Nat, k < d.rounds.length → fitsInt64 (p.start + k * p.stride) = true
  result : d.result = (d.rounds.getLast?.map CounterRound.ending).getD (.ok .next)
  /-- The loop ends if every body does. -/
  ends : (∀ r ∈ d.rounds, r.result ≠ .error .outOfFuel) → d.result ≠ .error .outOfFuel

namespace Progression

variable {p : Progression}

theorem tally_follows (hp : p.Fits) (body : Run Flow) (field : Option String) (s : State) :
    (p.tally body field p.count 0 s).Follows p body field s := by
  have hreaches := lt_length_tally p body field p.count 0 s
  have hresult := result_tally p body field p.count 0 s
  have hcount (k : Nat) : k < p.count ↔ ∀ j : Nat, j ≤ k → p.Before (p.counter j) :=
    ⟨fun hk j hj => (lt_count_iff hp.stride j).mp (Nat.lt_of_le_of_lt hj hk),
      fun h => (lt_count_iff hp.stride k).mpr (h k (Nat.le_refl k))⟩
  refine ⟨chain_tally p.count 0 s, fun k r hr => ?_,
    fun k => (hreaches k).trans (and_congr_left fun _ => hcount k),
    fun k hk => fits_counter hp ((hreaches k).mp hk).1, hresult, fun hends => ?_⟩
  · have hhas := has_tally p.count 0 s k r hr
    rwa [Nat.zero_add] at hhas
  · rw [hresult]
    cases hlast : (p.tally body field p.count 0 s).rounds.getLast? with
    | none => nofun
    | some r => exact CounterRound.ending_ne_outOfFuel (hends r (List.mem_of_getLast? hlast))

/-- The cycle of a counter's feed comes to what its rounds come to. -/
theorem cycle_eq_tally (body : Run Flow) (field : Option String) (left position : Nat)
    (hleft : position + left = p.count) (s : State) :
    cycle (p.feed field) body (left + 1) position s =
      ((p.tally body field left position s).result,
        (p.tally body field left position s).state) := by
  induction left generalizing position s with
  | zero =>
    have hfeed (c : Context) : p.feed field position c = .ok none :=
      congrArg Except.ok (if_neg (by omega))
    rw [cycle, roundsWithin, fedRound_of_end hfeed]
    rfl
  | succ left ih =>
    have hfeed : p.feed field position s.scope = .ok (some (p.begin field s.scope position)) :=
      congrArg Except.ok (if_pos (by omega))
    rcases hrun : body { s with scope := p.begin field s.scope position } with
      ⟨failure | flow, after⟩
    · simp only [cycle, roundsWithin, bind_apply, fedRound, ask_apply, hfeed, Except.mapError,
        setScope_apply, hrun, tally]
    · rw [cycle_succ hfeed hrun]
      simp only [tally, hrun]
      cases flow.ofRound with
      | some last => rfl
      | none => exact ih (position + 1) (by omega) after

end Progression

namespace Run

/-- A loop over a counter comes to what its rounds come to, with the form and the position put
back. -/
theorem countedLoop_eq_tally {h : Host} (exec : Node → Run Flow) {n : Node} {s : State}
    {p : Progression} (hp : h.progression n s.scope = .ok p) :
    let d := p.tally (sequence exec n.children) (n.name? "field") p.count 0 s
    countedLoop h exec n s =
      (d.result, { d.state with scope := d.state.scope.restore s.scope.save }) := by
  intro d
  rw [countedLoop, bind_apply, ask_apply, hp]
  simp only [Except.mapError, restoring_apply,
    roundsAlong_eq_cycle exec n (Host.progression_fits hp),
    p.cycle_eq_tally _ _ p.count 0 (Nat.zero_add _), d]

/-- **A loop over a counter goes along an arithmetic progression.**  Its body runs at the
positions `0, 1, 2, …` with the counters `from`, `from + step`, `from + 2 · step`, …, in
integers without bounds, as long as they are strictly before `to` in the direction of the step,
until a body ends the loop. -/
theorem counted_loop_follows_progression (h : Host) (fuel : Nat) (n : Node) (s : State)
    {start? stride? : Option Int} {bound : Int} (hi : h.registry.find? n.name = some .loop)
    (hstart : h.integer? n "from" s.scope = .ok start?)
    (hbound : h.integer? n "to" s.scope = .ok (some bound))
    (hstride : h.integer? n "step" s.scope = .ok stride?) (hne : stride? ≠ some 0) :
    let p : Progression := ⟨start?.getD 0, bound, stride?.getD 1⟩
    let body := sequence (execute h fuel) n.children
    let d := p.tally body (n.name? "field") p.count 0 (beginning n s)
    d.Follows p body (n.name? "field") (beginning n s) ∧
      execute h (fuel + 1) n s =
        finished n (d.result, { d.state with scope := d.state.scope.restore s.scope.save }) := by
  intro p body d
  have hp : h.progression n (beginning n s).scope = .ok p := by
    simp only [Host.progression, Host.bound, beginning, hstart, hbound, hstride, if_neg hne, p]
  have hcounted : n.hasAttr "to" = true := Host.hasAttr_of_integer? hbound
  refine ⟨Progression.tally_follows (Host.progression_fits hp) body _ _, ?_⟩
  rw [execute_known hi, perform, loop, hcounted, Bool.true_or, if_pos rfl,
    countedLoop_eq_tally (execute h fuel) hp]
  rfl

/-- A loop that begins one below the greatest integer, with a stride of five. -/
def lastCounter : Node :=
  { name := "loop",
    attributes := [("from", "9223372036854775806"), ("to", "9223372036854775807"), ("step", "5"),
      ("field", "i")],
    children := [{ name := "push", attributes := [("ref", "seen"), ("value", "{i}")] }] }

/-- The counter behind the only one does not fit 64 bits. -/
theorem counted_loop_follows_progression_lastCounter :
    let h := Host.ofLibrary {}
    let s := State.ofScope {}
    let p : Progression := ⟨9223372036854775806, 9223372036854775807, 5⟩
    let body := sequence (execute h 3) lastCounter.children
    let d := p.tally body (some "i") p.count 0 (beginning lastCounter s)
    (h.registry.find? lastCounter.name = some .loop ∧
      h.integer? lastCounter "from" s.scope = .ok (some 9223372036854775806) ∧
      h.integer? lastCounter "to" s.scope = .ok (some 9223372036854775807) ∧
      h.integer? lastCounter "step" s.scope = .ok (some 5) ∧ (some 5 : Option Int) ≠ some 0) ∧
    d.Follows p body (some "i") (beginning lastCounter s) ∧
    execute h 4 lastCounter s = finished lastCounter
      (d.result, { d.state with scope := d.state.scope.restore s.scope.save }) ∧
    p.count = 1 ∧ p.next? p.start = none := by
  intro h s p body d
  have hstart : h.integer? lastCounter "from" s.scope = .ok (some 9223372036854775806) := by cbv
  have hbound : h.integer? lastCounter "to" s.scope = .ok (some 9223372036854775807) := by cbv
  have hstride : h.integer? lastCounter "step" s.scope = .ok (some 5) := by cbv
  have hne : (some 5 : Option Int) ≠ some 0 := by decide
  have hfield : lastCounter.name? "field" = some "i" := by decide +kernel
  have hloop := counted_loop_follows_progression h 3 lastCounter s rfl hstart hbound hstride hne
  rw [hfield] at hloop
  exact ⟨⟨rfl, hstart, hbound, hstride, hne⟩, hloop.1, hloop.2, by decide, by decide⟩

end Run

end ActionTree
