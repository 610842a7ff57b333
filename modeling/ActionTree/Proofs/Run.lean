import Mathlib
import ActionTree.Machine.Dispatch

/-!
# ActionTree.Proofs.Run

Laws of runs.

1. a run is a function of the state it begins in, and every primitive has an
   equation that says which;
2. what holds of no rounds, and of a round before others, holds of a loop's rounds
   (`roundsAlong_induct`, `roundsWithin_induct`, `roundsOver_induct`);
3. `Keeps R x` says that `R` relates the state that `x` begins in to the state that
   it ends in, however it ends.  A relation that is reflexive and transitive is kept
   by whatever is put together from runs that keep it;
4. `Returns P x` says that `P` holds of the value of `x`, if it has one.

`Host.ofLibrary` and `State.ofScope` are where small runs begin.
-/

namespace ActionTree

/-! ## Beginnings -/

/-- A host with nothing but programs that are held in memory. -/
def Host.ofLibrary (l : Library) : Host where
  config := {}
  registry := {}
  services := {}
  source := l.source
  stored _ _ := none
  request := {}

/-- A state in which nothing has happened yet. -/
def State.ofScope (c : Context) : State := { scope := c, output := {} }

namespace Run

variable {α β : Type}

/-! ## Equations -/

@[simp] theorem pure_apply (a : α) (s : State) : (pure a : Run α) s = (.ok a, s) := rfl

/-- What follows runs from the state before it, unless there is a failure. -/
theorem bind_apply (x : Run α) (f : α → Run β) (s : State) :
    (x >>= f) s = match x s with
      | (.ok a, t) => f a t
      | (.error e, t) => (.error e, t) := by
  change (ExceptT.bind x f) s = _
  simp only [ExceptT.bind, ExceptT.mk, bind, StateT.bind]
  rcases x s with ⟨_ | _, t⟩ <;> rfl

@[simp] theorem throw_apply (e : Failure) (s : State) :
    (throw e : Run α) s = (.error e, s) := rfl

@[simp] theorem fail_apply (e : Error) (s : State) :
    (fail e : Run α) s = (.error (.error e), s) := rfl

@[simp] theorem scope_apply (s : State) : scope s = (.ok s.scope, s) := rfl

@[simp] theorem output_apply (s : State) : output s = (.ok s.output, s) := rfl

@[simp] theorem setScope_apply (c : Context) (s : State) :
    setScope c s = (.ok (), { s with scope := c }) := rfl

@[simp] theorem updateScope_apply (f : Context → Context) (s : State) :
    updateScope f s = (.ok (), { s with scope := f s.scope }) := rfl

@[simp] theorem updateOutput_apply (f : Settings → Settings) (s : State) :
    updateOutput f s = (.ok (), { s with output := f s.output }) := rfl

@[simp] theorem record_apply (e : Event) (s : State) :
    record e s = (.ok (), { s with journal := e :: s.journal }) := rfl

@[simp] theorem ofExcept_apply (r : Except Error α) (s : State) :
    ofExcept r s = (r.mapError Failure.error, s) := by
  cases r <;> rfl

/-- A question changes nothing. -/
@[simp] theorem ask_apply (question : Context → Except Error α) (s : State) :
    ask question s = ((question s.scope).mapError Failure.error, s) := by
  simp [ask, bind_apply]

@[simp] theorem attempt_apply (x : Run α) (s : State) :
    attempt x s = (.ok (x s).1, (x s).2) := rfl

@[simp] theorem closing_apply (x : Run α) (after : Except Failure α → State → State) (s : State) :
    closing x after s = ((x s).1, after (x s).1 (x s).2) := rfl

@[simp] theorem release_apply (r : Except Failure α) (s : State) : release r s = (r, s) := by
  cases r <;> rfl

@[simp] theorem load_apply (h : Host) (id : String) (s : State) :
    load h id s = (.ok (s.programs.load h.source h.registry id).1,
      { s with programs := (s.programs.load h.source h.registry id).2 }) := rfl

/-- The body of a scope that is put back, with the scope saved first. -/
@[simp] theorem restoring_apply (body : Snapshot → Run α) (s : State) :
    restoring body s =
      let (result, t) := body s.scope.save s
      (result, { t with scope := t.scope.restore s.scope.save }) := rfl

/-! ## Branches -/

/-- A block that is entered comes to what its nodes come to, but for an error that it may
recover from. -/
theorem block_apply (h : Host) (exec : Node → Run Flow) (n : Node) (s : State) :
    block h exec n s = match h.enters n s.scope with
      | .error e => (.error (.error e), s)
      | .ok false => (.ok .next, s)
      | .ok true => match sequence exec n.children s with
        | (.ok flow, t) => (.ok flow, t)
        | (.error (.error e), t) => if e.isFatal then (.error (.error e), t) else recover h n e t
        | (.error .outOfFuel, t) => (.error .outOfFuel, t) := by
  rw [block, bind_apply, ask_apply]
  cases h.enters n s.scope with
  | error e => rfl
  | ok entered =>
    cases entered with
    | false => rfl
    | true =>
      simp only [Except.mapError, if_true, bind_apply, attempt_apply]
      rcases sequence exec n.children s with ⟨(e | _) | flow, t⟩
      · dsimp only
        split <;> rfl
      · rfl
      · rfl

/-- A switch comes to what the nodes of the branch come to that is selected. -/
theorem switch_apply (h : Host) (exec : Node → Run Flow) (n : Node) (s : State) :
    switch h exec n s = match h.attr? n "subject" s.scope with
      | .error e => (.error (.error e), s)
      | .ok subject => match h.select (subject.getD "") s.scope n.children with
        | .error e => (.error (.error e), s)
        | .ok none => (.ok .next, s)
        | .ok (some branch) => sequence exec branch.children s := by
  rw [switch, bind_apply, ask_apply]
  cases h.attr? n "subject" s.scope with
  | error e => rfl
  | ok subject =>
    simp only [Except.mapError, bind_apply, ask_apply]
    cases h.select (subject.getD "") s.scope n.children with
    | error e => rfl
    | ok selected => cases selected <;> rfl

/-! ## Sub-programs -/

/-- A sub-program runs in its own scope, and leaves what `after` makes of that. -/
theorem inside_apply (exec : Node → Run Flow) (p : Program) (c : Context)
    (after : Context → Context) (s : State) :
    inside exec p c after s =
      let (result, t) := sequence exec p.nodes
        { s with scope := c, journal := .opened p.id :: s.journal }
      (result, { t with scope := after t.scope, journal := .closed p.id :: t.journal }) := rfl

theorem runShared_apply (h : Host) (exec : Node → Run Flow) (p : Program) (s : State) :
    runShared h exec p s = match s.scope.enter? h.config.maxCallDepth with
      | none => (.error (.error (tooDeep s.scope h.config.maxCallDepth)), s)
      | some inner => inside exec p { inner with base := some p.id }
          (fun last => { last.leave with base := s.scope.base }) s := by
  rw [runShared, bind_apply, scope_apply]
  cases hc : s.scope.enter? h.config.maxCallDepth with
  | none => simp only [hc, fail_apply]
  | some inner => simp only [hc]

theorem runIsolated_apply (h : Host) (exec : Node → Run Flow) (n : Node) (p : Program)
    (s : State) :
    runIsolated h exec n p s = match h.parameters n s.scope with
      | .error e => (.error (.error e), s)
      | .ok parameters =>
        match (s.scope.child parameters p.id).enter? h.config.maxCallDepth with
        | none => (.error (.error (tooDeep s.scope h.config.maxCallDepth)), s)
        | some child => inside exec p child
            (fun last => s.scope.importFields (last.exports h.config.exportMarker)) s := by
  rw [runIsolated, bind_apply, ask_apply]
  cases hp : h.parameters n s.scope with
  | error e => rfl
  | ok parameters =>
    simp only [Except.mapError, bind_apply, scope_apply]
    cases hc : (s.scope.child parameters p.id).enter? h.config.maxCallDepth with
    | none => rfl
    | some child => rfl

/-- A program is named and loaded.  One that is missing ends neither the run nor the request:
the node goes on, or replies that it is missing. -/
theorem target_apply (h : Host) (n : Node) (s : State) :
    target h n s = match h.attr n "src" s.scope with
      | .error e => (.error (.error e), s)
      | .ok src =>
        let loaded := s.programs.load h.source h.registry (resolveReference s.scope.base src)
        (match loaded.1 with
          | .ok p => .ok (.ok p)
          | .error (.missingProgram id) =>
            (h.flag n "inhibit" s.scope).mapError Failure.error |>.map fun inhibited =>
              .error (if inhibited then .next else .reply (.envelope
                (Envelope.failure missingStatus (Error.missingProgram id).message)))
          | .error e => .error (.error e),
          { s with programs := loaded.2 }) := by
  rw [target, bind_apply, ask_apply]
  cases hsrc : h.attr n "src" s.scope with
  | error e => rfl
  | ok src =>
    simp only [Except.mapError, bind_apply, scope_apply, load_apply]
    cases hp : (s.programs.load h.source h.registry (resolveReference s.scope.base src)).1 with
    | ok p => rfl
    | error e =>
      cases e with
      | missingProgram id =>
        simp only [bind_apply, ask_apply]
        cases hflag : h.flag n "inhibit" s.scope with
        | error e => rfl
        | ok inhibited => cases inhibited <;> rfl
      | _ => rfl

/-- A call finds its program, asks for its flags, runs the program, and passes on
what that came to. -/
theorem call_apply (h : Host) (exec : Node → Run Flow) (n : Node) (s : State) :
    call h exec n s = match target h n s with
      | (.error e, t) => (.error e, t)
      | (.ok (.error flow), t) => (.ok flow, t)
      | (.ok (.ok p), t) =>
        match h.flagOr n "passControl" true t.scope with
        | .error e => (.error (.error e), t)
        | .ok control =>
          match h.flag n "shared" t.scope with
          | .error e => (.error (.error e), t)
          | .ok shared => (callee h exec n p shared >>= passOn n control) t := by
  rw [call, bind_apply]
  rcases target h n s with ⟨e | flow | p, t⟩
  · rfl
  · rfl
  · simp only [bind_apply, ask_apply]
    cases hc : h.flagOr n "passControl" true t.scope with
    | error e => rfl
    | ok control =>
      simp only [Except.mapError]
      cases hs : h.flag n "shared" t.scope with
      | error e => rfl
      | ok shared => rfl

/-! ## Nodes -/

/-- The journal of a node that begins. -/
def beginning (n : Node) (s : State) : State :=
  { s with journal := .began n.name s.scope.depth :: s.journal }

/-- A node of an unknown name begins and ends. -/
theorem execute_unknown {h : Host} {n : Node} (hi : h.registry.find? n.name = none) (fuel : Nat)
    (s : State) :
    execute h (fuel + 1) n s =
      (.error (.error (.unknownInstruction n.name)),
        { s with journal := .ended n.name (.error (.error (.unknownInstruction n.name))) ::
            .began n.name s.scope.depth :: s.journal }) := by
  simp only [execute, closing_apply, dispatch, bind_apply, scope_apply, record_apply, hi,
    fail_apply]

/-- A node begins, its instruction is performed, and it ends. -/
theorem execute_known {h : Host} {n : Node} {i : Instruction}
    (hi : h.registry.find? n.name = some i) (fuel : Nat) (s : State) :
    execute h (fuel + 1) n s =
      let (result, t) := perform h fuel (execute h fuel) i n (beginning n s)
      (result, { t with journal := .ended n.name result :: t.journal }) := by
  simp only [execute, closing_apply, dispatch, bind_apply, scope_apply, record_apply, hi, beginning]
  rfl

/-! ## Rounds -/

/-- A round, and the rest unless the round is the last. -/
def roundThen (round : Run (Option Flow)) (rest : Run Flow) : Run Flow := do
  match ← round with
  | some flow => return flow
  | none => rest

section Rounds

variable {P : Run Flow → Prop}

/-- A round along the way of a counter, and the rounds behind it. -/
theorem roundsAlong_eq (p : Progression) (round : Int → Nat → Run (Option Flow)) (counter : Int)
    (position : Nat) :
    roundsAlong p round counter position =
      if p.isBefore counter then
        roundThen (round counter position) (match p.next? counter with
          | none => pure .next
          | some next => roundsAlong p round next (position + 1))
      else pure .next := by
  rw [roundsAlong]
  split
  · refine congrArg _ (funext fun last => ?_)
    cases last with
    | some flow => rfl
    | none =>
      dsimp only
      split
      · next hnext => rw [hnext]
      · next next hnext => rw [hnext]
  · rfl

/-- What holds of no rounds, and of a round before others, holds of rounds. -/
theorem roundsAlong_induct {p : Progression} {round : Int → Nat → Run (Option Flow)}
    (hend : P (pure .next))
    (hround : ∀ counter position rest, P rest → P (roundThen (round counter position) rest))
    (counter : Int) (position : Nat) : P (roundsAlong p round counter position) := by
  induction hd : p.distance counter using Nat.strong_induction_on generalizing counter position with
  | _ d ih =>
    rw [roundsAlong_eq]
    split
    · next hbefore =>
      refine hround counter position _ ?_
      cases hnext : p.next? counter with
      | none => exact hend
      | some next =>
        exact ih _ (hd ▸ Progression.distance_next? hbefore hnext) next (position + 1) rfl
    · exact hend

theorem roundsWithin_induct {round : Nat → Run (Option Flow)} (hend : P (throw .outOfFuel))
    (hround : ∀ position rest, P rest → P (roundThen (round position) rest))
    (fuel position : Nat) : P (roundsWithin round fuel position) := by
  induction fuel generalizing position with
  | zero => exact hend
  | succ fuel ih => exact hround position _ (ih (position + 1))

theorem roundsOver_induct {round : Nat → α → Run (Option Flow)} {atEnd : Run Flow}
    (hend : P atEnd) (hround : ∀ position a rest, P rest → P (roundThen (round position a) rest))
    (items : List α) (position : Nat) : P (roundsOver round atEnd items position) := by
  induction items generalizing position with
  | nil => exact hend
  | cons a as ih => exact hround position a _ (ih (position + 1))

end Rounds

/-! ## Values -/

/-- A property of the value of a run. -/
def Returns (P : α → Prop) (x : Run α) : Prop := ∀ s a, (x s).1 = .ok a → P a

namespace Returns

variable {P : α → Prop} {Q : β → Prop}

theorem pure {a : α} (ha : P a) : Returns P (Pure.pure a : Run α) := by
  intro s b hb
  rw [pure_apply, Except.ok.injEq] at hb
  rwa [← hb]

theorem throw (e : Failure) : Returns P (MonadExcept.throw e : Run α) := by
  intro s a ha
  rw [throw_apply] at ha
  contradiction

theorem fail (e : Error) : Returns P (Run.fail e : Run α) := throw (.error e)

theorem bind {x : Run α} {f : α → Run β} (hx : Returns P x) (hf : ∀ a, P a → Returns Q (f a)) :
    Returns Q (x >>= f) := by
  intro s b hb
  rw [bind_apply] at hb
  rcases hr : x s with ⟨_ | a, t⟩
  · rw [hr] at hb
    contradiction
  · rw [hr] at hb
    exact hf a (hx s a (by rw [hr])) t b hb

/-- Whatever the first run gives. -/
theorem after {x : Run α} {f : α → Run β} (hf : ∀ a, Returns Q (f a)) : Returns Q (x >>= f) :=
  bind (P := fun _ => True) (fun _ _ _ => trivial) fun a _ => hf a

theorem restoring {body : Snapshot → Run α} (hb : ∀ saved, Returns P (body saved)) :
    Returns P (restoring body) := fun s => hb s.scope.save s

end Returns

/-! ## Relations between states -/

/-- A relation that holds of no change, and of one change after another. -/
class Frame (R : State → State → Prop) : Prop where
  refl : ∀ s, R s s
  trans : ∀ {s t u}, R s t → R t u → R s u

/-- The state that a run ends in is related to the one it begins in. -/
def Keeps (R : State → State → Prop) (x : Run α) : Prop := ∀ s, R s (x s).2

namespace Keeps

variable {R : State → State → Prop} [Frame R]

theorem pure (a : α) : Keeps R (Pure.pure a : Run α) := fun s => Frame.refl s

theorem throw (e : Failure) : Keeps R (MonadExcept.throw e : Run α) := fun s => Frame.refl s

theorem fail (e : Error) : Keeps R (Run.fail e : Run α) := throw (.error e)

theorem scope : Keeps R Run.scope := fun s => Frame.refl s

theorem output : Keeps R Run.output := fun s => Frame.refl s

theorem ofExcept (r : Except Error α) : Keeps R (Run.ofExcept r) := by
  intro s
  rw [ofExcept_apply]
  exact Frame.refl s

theorem ask (question : Context → Except Error α) : Keeps R (Run.ask question) := by
  intro s
  rw [ask_apply]
  exact Frame.refl s

theorem release (r : Except Failure α) : Keeps R (Run.release r) := by
  intro s
  rw [release_apply]
  exact Frame.refl s

theorem bind {x : Run α} {f : α → Run β} (hx : Keeps R x) (hf : ∀ a, Keeps R (f a)) :
    Keeps R (x >>= f) := by
  intro s
  have hs := hx s
  rw [bind_apply]
  rcases hr : x s with ⟨_ | a, t⟩
  · rwa [hr] at hs
  · rw [hr] at hs
    exact Frame.trans hs (hf a t)

omit [Frame R] in
theorem mono {R' : State → State → Prop} {x : Run α} (hx : Keeps R x)
    (h : ∀ {s t}, R s t → R' s t) : Keeps R' x := fun s => h (hx s)

omit [Frame R] in
theorem attempt {x : Run α} (hx : Keeps R x) : Keeps R (Run.attempt x) := fun s => hx s

theorem sequence {exec : Node → Run Flow} (hexec : ∀ n, Keeps R (exec n)) (nodes : List Node) :
    Keeps R (Run.sequence exec nodes) := by
  induction nodes with
  | nil => exact pure Flow.next
  | cons n ns ih =>
    refine bind (hexec n) fun flow => ?_
    cases flow with
    | next => exact ih
    | _ => exact pure _

theorem roundThen {round : Run (Option Flow)} {rest : Run Flow} (hround : Keeps R round)
    (hrest : Keeps R rest) : Keeps R (roundThen round rest) := by
  refine bind hround fun last => ?_
  cases last with
  | none => exact hrest
  | some flow => exact pure flow

theorem roundsAlong {p : Progression} {round : Int → Nat → Run (Option Flow)}
    (hround : ∀ counter position, Keeps R (round counter position)) (counter : Int)
    (position : Nat) : Keeps R (Run.roundsAlong p round counter position) :=
  roundsAlong_induct (pure Flow.next)
    (fun counter position _ => roundThen (hround counter position)) counter position

theorem roundsWithin {round : Nat → Run (Option Flow)}
    (hround : ∀ position, Keeps R (round position)) (fuel position : Nat) :
    Keeps R (Run.roundsWithin round fuel position) :=
  roundsWithin_induct (throw Failure.outOfFuel) (fun position _ => roundThen (hround position))
    fuel position

theorem roundsOver {round : Nat → α → Run (Option Flow)} {atEnd : Run Flow}
    (hround : ∀ position a, Keeps R (round position a)) (hend : Keeps R atEnd)
    (items : List α) (position : Nat) : Keeps R (Run.roundsOver round atEnd items position) :=
  roundsOver_induct hend (fun position a _ => roundThen (hround position a)) items position

theorem visit {round : Nat → Value → Run (Flow × Value)}
    (hround : ∀ position v, Keeps R (round position v)) (items : List (Nat × Value)) :
    Keeps R (Run.visit round items) := by
  induction items with
  | nil => exact pure _
  | cons item rest ih =>
    obtain ⟨position, v⟩ := item
    refine bind (attempt (hround position v)) fun result => ?_
    rcases result with failure | ⟨flow, w⟩
    · exact pure _
    · dsimp only
      cases flow.ofRound with
      | some last => exact pure _
      | none => exact bind ih fun _ => pure _

end Keeps

end Run

end ActionTree
