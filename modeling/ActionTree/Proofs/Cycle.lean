import ActionTree.Proofs.LoopScope
import ActionTree.Proofs.Counter

/-!
# ActionTree.Proofs.Cycle

Every loop is one and the same cycle.

1. a *feed* says what a round finds: the scope that its body begins in, that there is no
   further round, or an error.  It goes by the position and the scope, and by nothing that
   the body came to;
2. a *cycle* asks its feed, runs its body, and goes on as `Flow.ofRound` says (`cycle_succ`);
3. the loops over counters, conditions, lists, stacks and rows are the cycle of their own
   feeds, begun at the first position (`perform_cycle`).  A traversal alone does something
   behind the cycle: it writes its list back.

So how a loop goes on after a round is said once, and not of four loops.
-/

namespace ActionTree

open Run

/-! ## Cycles -/

/-- What a round at a position finds in a scope. -/
abbrev Feed := Nat → Context → Except Error (Option Context)

namespace Run

/-- A round of a cycle: the feed is asked for its scope, and the body runs in it. -/
def fedRound (feed : Feed) (body : Run Flow) (position : Nat) : Run (Option Flow) := do
  match ← ask (feed position) with
  | none => return some .next
  | some c => do
    setScope c
    let flow ← body
    return flow.ofRound

/-- Rounds from a position on, until the feed has none or one of them is the last. -/
def cycle (feed : Feed) (body : Run Flow) (fuel position : Nat) : Run Flow :=
  roundsWithin (fedRound feed body) fuel position

section Rounds

variable {α : Type} {round round' : Nat → Run (Option Flow)}

/-- Two ways to say what a round does are one if they agree on every round. -/
theorem roundsWithin_congr (hround : ∀ position, round position = round' position)
    (fuel position : Nat) : roundsWithin round fuel position = roundsWithin round' fuel position := by
  rw [funext hround]

/-- A round for every item is rounds that end behind the last item. -/
theorem roundsOver_eq_roundsWithin {roundOf : Nat → α → Run (Option Flow)} {atEnd : Run Flow}
    (items : List α) (position : Nat)
    (hround : ∀ k a, items[k]? = some a → roundOf (position + k) a = round' (position + k))
    (hend : round' (position + items.length) = some <$> atEnd) :
    roundsOver roundOf atEnd items position =
      roundsWithin round' (items.length + 1) position := by
  induction items generalizing position with
  | nil =>
    funext s
    rw [List.length_nil, Nat.add_zero] at hend
    rw [roundsOver, List.length_nil, roundsWithin, hend, bind_apply, map_eq_pure_bind, bind_apply]
    rcases atEnd s with ⟨e | flow, t⟩ <;> rfl
  | cons a rest ih =>
    have hrest : roundsOver roundOf atEnd rest (position + 1) =
        roundsWithin round' (rest.length + 1) (position + 1) :=
      ih (position + 1) (fun k b hk => by
        have hnext := hround (k + 1) b hk
        rwa [show position + (k + 1) = position + 1 + k by omega] at hnext)
        (by rwa [List.length_cons, show position + (rest.length + 1) = position + 1 + rest.length
          by omega] at hend)
    rw [roundsOver, List.length_cons, roundsWithin, hrest,
      show roundOf position a = round' position from hround 0 a rfl]

/-- The visits of a list come to what rounds come to that end behind the last item. -/
theorem visit_eq_roundsWithin {roundOf : Nat → Value → Run (Flow × Value)}
    (items : List (Nat × Value)) (position : Nat) (s : State)
    (hround : ∀ k item, items[k]? = some item →
      round' (position + k) = (fun p => p.1.ofRound) <$> roundOf item.1 item.2)
    (hend : round' (position + items.length) = pure (some .next)) :
    ∃ last visited t, visit roundOf items s = (.ok (last, visited), t) ∧
      roundsWithin round' (items.length + 1) position s = (last, t) := by
  induction items generalizing position s with
  | nil =>
    rw [List.length_nil, Nat.add_zero] at hend
    refine ⟨.ok .next, [], s, rfl, ?_⟩
    rw [List.length_nil, roundsWithin, hend]
    rfl
  | cons item rest ih =>
    obtain ⟨place, v⟩ := item
    have hfirst : round' position = (fun p => p.1.ofRound) <$> roundOf place v :=
      hround 0 (place, v) rfl
    rw [List.length_cons, roundsWithin, hfirst, visit, bind_apply, bind_apply, attempt_apply,
      map_eq_pure_bind, bind_apply]
    rcases hrun : roundOf place v s with ⟨failure | ⟨flow, w⟩, t⟩
    · exact ⟨.error failure, (place, v) :: rest, t, rfl, rfl⟩
    · obtain ⟨last, visited, u, hvisit, hrounds⟩ := ih (position + 1) t
        (fun k b hk => by
          have hnext := hround (k + 1) b hk
          rwa [show position + (k + 1) = position + 1 + k by omega] at hnext)
        (by rwa [List.length_cons, show position + (rest.length + 1) = position + 1 + rest.length
          by omega] at hend)
      simp only [pure_apply]
      cases flow.ofRound with
      | some last => exact ⟨.ok last, (place, w) :: rest, t, rfl, rfl⟩
      | none =>
        refine ⟨last, (place, w) :: visited, u, ?_, hrounds⟩
        simp only [bind_apply, hvisit, pure_apply]

end Rounds

/-! ### One round -/

variable {feed : Feed} {body : Run Flow} {fuel position : Nat} {s t : State} {c : Context}
  {flow : Flow}

/-- A round whose body comes to a flow is the last one, or the next one follows. -/
theorem cycle_succ (hfeed : feed position s.scope = .ok (some c))
    (hbody : body { s with scope := c } = (.ok flow, t)) :
    cycle feed body (fuel + 1) position s = match flow.ofRound with
      | some last => (.ok last, t)
      | none => cycle feed body fuel (position + 1) t := by
  rw [cycle, roundsWithin, bind_apply, fedRound, bind_apply, ask_apply, hfeed]
  simp only [Except.mapError, bind_apply, setScope_apply, hbody, pure_apply]
  cases flow.ofRound with
  | some last => rfl
  | none => rfl

/-- Behind a round that was left the cycle is over. -/
theorem cycle_leave (hfeed : feed position s.scope = .ok (some c))
    (hbody : body { s with scope := c } = (.ok .leave, t)) :
    cycle feed body (fuel + 1) position s = (.ok .next, t) := cycle_succ hfeed hbody

/-- Behind a round that was skipped comes the next one. -/
theorem cycle_skip (hfeed : feed position s.scope = .ok (some c))
    (hbody : body { s with scope := c } = (.ok .skip, t)) :
    cycle feed body (fuel + 1) position s = cycle feed body fuel (position + 1) t :=
  cycle_succ hfeed hbody

end Run

/-! ## Feeds -/

/-- A feed and a number of rounds that it does not exceed, if such a number is known. -/
structure Plan where
  feed : Feed
  fuel : Nat

/-- As many rounds as a counter takes steps. -/
def Progression.feed (p : Progression) (field : Option String) : Feed := fun position c =>
  .ok (if position < p.count then
    some { (match field with
      | some _ => c.bind (.int (p.counter position)) field
      | none => c) with index := some position }
  else none)

/-- Rounds as long as a condition holds. -/
def Node.conditionFeed (n : Node) : Feed := fun position c =>
  (n.condition "condition" c).map fun holds =>
    if holds then some { c with index := some position } else none

/-- The scope of a round that an element is bound in. -/
def Snapshot.bound (saved : Snapshot) (element : Value) (field : Option String) (position : Nat)
    (c : Context) : Context :=
  { (c.restore saved).bind element field with index := some position }

/-- A round for every visit of a list. -/
def Traversal.feed (t : Traversal) (saved : Snapshot) (field : Option String) : Feed :=
  fun position c => .ok (t.visits[position]?.map fun item => saved.bound item.2 field item.1 c)

/-- The top of a stack, and the scope without it. -/
def Context.popped? (c : Context) (source : String) : Option (Value × Context) :=
  match c.slot? source with
  | some (.list items) => items.getLast?.map fun top =>
      (top, (c.update? source fun _ => .list items.dropLast).getD c)
  | _ => none

/-- Rounds as long as there is something on a stack. -/
def Snapshot.stackFeed (saved : Snapshot) (source : String) (field : Option String) : Feed :=
  fun position c => .ok ((c.popped? source).map fun p => saved.bound p.1 field position p.2)

/-- A round for every row, and the error that the rows end with. -/
def Cursor.feed (cursor : Cursor) (saved : Snapshot) (field : Option String) : Feed :=
  fun position c =>
    match cursor.rows[position]?, cursor.ending with
    | some row, _ => .ok (some (saved.bound (.record row) field position c))
    | none, none => .ok none
    | none, some cause => .error (.service cause)

namespace Run

/-- What a loop finds out before its rounds. -/
def plan (h : Host) (fuel : Nat) (i : Instruction) (n : Node) : Run Plan :=
  match i with
  | .loop =>
    if n.hasAttr "to" || n.hasAttr "count" then do
      let p ← ask (h.progression n)
      return ⟨p.feed (n.name? "field"), p.count + 1⟩
    else if n.hasAttr "condition" then pure ⟨n.conditionFeed, fuel⟩
    else fail (n.badAttribute "condition" "a loop needs `to`, `count` or `condition`")
  | .traverse => do
    let t ← ask (h.traversal n)
    let c ← scope
    return ⟨t.feed c.save (n.name? "field"), t.visits.length + 1⟩
  | .stackLoop => do
    let source ← ask (h.attr n "source")
    let c ← scope
    if source = "form" || Text.startsWith Context.formPrefix source then
      fail (n.badAttribute "source" "a stack must live outside the form record")
    else return ⟨c.save.stackFeed source (n.name? "field"), fuel⟩
  | .reader => do
    let statement ← ask (h.attrOrText n "sql")
    let cursor ← consult h fun db => db.cursor statement
    let c ← scope
    return ⟨cursor.feed c.save (n.name? "field"), cursor.rows.length + 1⟩
  | _ => pure ⟨fun _ _ => .ok none, 0⟩

/-- The cycle of a plan, with the form and the position put back behind it. -/
def planned (p : Plan) (body : Run Flow) : Run Flow :=
  restoring fun _ => cycle p.feed body p.fuel 0

/-- What a loop came to, beside what its cycle came to: only a traversal may have changed
the scope behind the cycle. -/
structure CameTo (i : Instruction) (cycle out : Except Failure Flow × State) : Prop where
  result : out.1 = cycle.1
  output : out.2.output = cycle.2.output
  programs : out.2.programs = cycle.2.programs
  journal : out.2.journal = cycle.2.journal
  scope : i ≠ .traverse → out.2.scope = cycle.2.scope

theorem CameTo.of_eq {i : Instruction} {cycle out : Except Failure Flow × State}
    (heq : out = cycle) : CameTo i cycle out := by
  subst heq
  exact ⟨rfl, rfl, rfl, rfl, fun _ => rfl⟩

/-! ## The loops -/

variable (h : Host) (exec : Node → Run Flow) (fuel : Nat) (n : Node)

/-- The scope is set, and the body runs. -/
theorem fedRound_of_feed {feed : Feed} {body : Run Flow} {position : Nat}
    {f : Context → Context} (hfeed : ∀ c, feed position c = .ok (some (f c))) :
    fedRound feed body position = (do updateScope f; return (← body).ofRound) := by
  funext s
  rw [fedRound, bind_apply, ask_apply, hfeed]
  rfl

theorem fedRound_of_end {feed : Feed} {body : Run Flow} {position : Nat}
    (hfeed : ∀ c, feed position c = .ok none) : fedRound feed body position = pure (some .next) := by
  funext s
  rw [fedRound, bind_apply, ask_apply, hfeed]
  rfl

theorem roundsAlong_eq_cycle {p : Progression} (hp : p.Fits) :
    roundsAlong p (fun counter position => do
        bindCounter counter (n.name? "field") position
        bodyRound exec n) p.start 0 =
      cycle (p.feed (n.name? "field")) (sequence exec n.children) (p.count + 1) 0 := by
  refine roundsAlong_eq_roundsWithin hp (fun k hk => ?_) (fedRound_of_end fun c => ?_)
  · refine (fedRound_of_feed fun c => ?_).symm
    exact congrArg Except.ok (if_pos hk)
  · simp only [Progression.feed, if_neg (Nat.lt_irrefl _)]

theorem conditional_eq_cycle :
    roundsWithin (fun position => do
        if ← ask (n.condition "condition") then
          updateScope fun c => { c with index := some position }
          bodyRound exec n
        else return some .next) fuel 0 =
      cycle n.conditionFeed (sequence exec n.children) fuel 0 := by
  refine roundsWithin_congr (fun position => ?_) fuel 0
  funext s
  rw [fedRound, bind_apply, bind_apply, ask_apply, ask_apply, Node.conditionFeed]
  cases n.condition "condition" s.scope with
  | error e => rfl
  | ok holds => cases holds <;> rfl

theorem visitAll_eq_cycle (t : Traversal) (s : State) : ∃ last visited u,
    visitAll exec n t s = (.ok (last, visited), u) ∧
      planned ⟨t.feed s.scope.save (n.name? "field"), t.visits.length + 1⟩
        (sequence exec n.children) s = (last, u) := by
  let feed := t.feed s.scope.save (n.name? "field")
  have hround (k : Nat) (item : Nat × Value) (hitem : t.visits[k]? = some item) :
      fedRound feed (sequence exec n.children) (0 + k) =
        (fun p => p.1.ofRound) <$> visitRound exec n t.updates s.scope.save item.1 item.2 := by
    have hfeed (c : Context) :
        feed k c = .ok (some (s.scope.save.bound item.2 (n.name? "field") item.1 c)) := by
      simp only [feed, Traversal.feed, hitem, Option.map_some]
    rw [Nat.zero_add, fedRound_of_feed hfeed]
    funext u
    rw [map_eq_pure_bind]
    simp only [visitRound, bindElement, bind_apply, updateScope_apply, Snapshot.bound]
    rcases sequence exec n.children _ with ⟨e | flow, w⟩ <;> rfl
  have hend : fedRound feed (sequence exec n.children) (0 + t.visits.length) =
      pure (some .next) :=
    fedRound_of_end fun c => by
      simp only [feed, Traversal.feed, Nat.zero_add, List.getElem?_length, Option.map_none]
  obtain ⟨last, visited, u, hvisit, hrounds⟩ := visit_eq_roundsWithin t.visits 0 s hround hend
  refine ⟨last, visited, { u with scope := u.scope.restore s.scope.save }, ?_, ?_⟩
  · rw [visitAll, restoring_apply, hvisit]
  · rw [planned, restoring_apply, cycle, hrounds]

theorem pop_apply (source : String) (s : State) :
    pop source s = match s.scope.popped? source with
      | none => (.ok none, s)
      | some (top, c) => (.ok (some top), { s with scope := c }) := by
  rw [pop, bind_apply, scope_apply, Context.popped?]
  dsimp only
  cases s.scope.slot? source with
  | none => rfl
  | some v =>
    cases v with
    | list items => cases hlast : items.getLast? <;> simp only [hlast] <;> rfl
    | _ => rfl

theorem stack_eq_cycle (saved : Snapshot) (source : String) :
    roundsWithin (fun position => do
        match ← pop source with
        | none => return some .next
        | some element => do
          bindElement saved element (n.name? "field") position
          bodyRound exec n) fuel 0 =
      cycle (saved.stackFeed source (n.name? "field")) (sequence exec n.children) fuel 0 := by
  refine roundsWithin_congr (fun position => ?_) fuel 0
  funext s
  rw [fedRound, bind_apply, bind_apply, ask_apply, pop_apply, Snapshot.stackFeed]
  cases s.scope.popped? source with
  | none => rfl
  | some p => rfl

theorem roundsOver_eq_cycle (saved : Snapshot) (cursor : Cursor) :
    roundsOver (fun position row => do
        bindElement saved (.record row) (n.name? "field") position
        bodyRound exec n) (endOfRows cursor) cursor.rows 0 =
      cycle (cursor.feed saved (n.name? "field")) (sequence exec n.children)
        (cursor.rows.length + 1) 0 := by
  refine roundsOver_eq_roundsWithin cursor.rows 0 (fun k row hrow => ?_) ?_
  · refine (fedRound_of_feed fun c => ?_).symm
    simp only [Cursor.feed, Nat.zero_add, hrow]
    rfl
  · funext s
    rw [Nat.zero_add, fedRound, bind_apply, ask_apply, Cursor.feed, List.getElem?_length,
      map_eq_pure_bind, bind_apply, endOfRows]
    cases cursor.ending with
    | none => rfl
    | some cause => rfl

/-- A loop that can be planned is the cycle of its plan; one that cannot be fails as its
plan does. -/
theorem perform_cycle {i : Instruction} (hi : i.isLoop = true) (s : State) :
    CameTo i (match plan h fuel i n s with
      | (.ok p, t) => planned p (sequence exec n.children) t
      | (.error e, t) => (.error e, t)) (perform h fuel exec i n s) := by
  cases i with
  | loop =>
    refine .of_eq ?_
    rw [perform, loop, plan]
    split
    · rw [countedLoop, bind_apply, bind_apply, ask_apply]
      cases hp : h.progression n s.scope with
      | error e => rfl
      | ok p =>
        simp only [Except.mapError, pure_apply, planned,
          roundsAlong_eq_cycle exec n (Host.progression_fits hp)]
    · split
      · rw [conditionalLoop, pure_apply, conditional_eq_cycle]
        rfl
      · rfl
  | traverse =>
    rw [perform, plan, traverse, bind_apply, bind_apply, ask_apply]
    cases h.traversal n s.scope with
    | error e => exact .of_eq rfl
    | ok t =>
      obtain ⟨last, visited, u, hvisit, hcycle⟩ := visitAll_eq_cycle exec n t s
      simp only [Except.mapError, bind_apply, scope_apply, pure_apply, hvisit, hcycle]
      split
      · rw [release_apply]
        exact .of_eq rfl
      · rw [bind_apply, updateScope_apply]
        dsimp only
        rw [release_apply]
        exact ⟨rfl, rfl, rfl, rfl, fun hi => absurd rfl hi⟩
  | stackLoop =>
    refine .of_eq ?_
    rw [perform, plan, stackLoop, bind_apply, bind_apply, ask_apply]
    cases h.attr n "source" s.scope with
    | error e => rfl
    | ok source =>
      simp only [Except.mapError, bind_apply, scope_apply]
      split
      · rfl
      · have hcycle := congrFun (stack_eq_cycle exec fuel n s.scope.save source) s
        simp only [pure_apply, planned, restoring_apply]
        exact hcycle ▸ rfl
  | reader =>
    refine .of_eq ?_
    rw [perform, plan, reader, bind_apply, bind_apply, ask_apply]
    cases h.attrOrText n "sql" s.scope with
    | error e => rfl
    | ok statement =>
      simp only [Except.mapError, bind_apply]
      rcases consult h (fun db => db.cursor statement) s with ⟨e | cursor, t⟩
      · rfl
      · simp only [scope_apply, pure_apply, planned, restoring_apply, roundsOver_eq_cycle]
  | _ => contradiction

end Run

end ActionTree
