import ActionTree.Proofs.Run

/-!
# ActionTree.Proofs.LoopScope

What a loop leaves of its scope.

1. the position is the one from before the loop, however the loop ended;
2. so is the form, unless a traversal writes its list back into the form: then the
   list is all that is new in it;
3. a loop takes loop signals for itself, so none comes out of it.

The body plays no part in this.  It may write the form and the position as it
likes: `restoring` puts both back behind any body (`restoring_sameForm`).
-/

namespace ActionTree

open Run

/-! ## Signals -/

/-- Not a signal to a loop. -/
def Flow.LeavesLoop (flow : Flow) : Prop := flow ≠ .skip ∧ flow ≠ .leave

theorem leavesLoop_next : Flow.next.LeavesLoop := ⟨nofun, nofun⟩

/-- What the last round makes of its flow is no signal. -/
theorem leavesLoop_ofRound {flow last : Flow} (h : flow.ofRound = some last) :
    last.LeavesLoop := by
  cases flow with
  | next | skip => contradiction
  | leave | stop | reply r =>
    cases h
    exact ⟨nofun, nofun⟩

namespace Run

/-- The value of a round that ends the loop with no signal. -/
def EndsLoop (last : Option Flow) : Prop := ∀ flow, last = some flow → flow.LeavesLoop

theorem endsLoop_next : EndsLoop (some .next) := by
  intro flow h
  cases h
  exact leavesLoop_next

theorem returns_bodyRound (exec : Node → Run Flow) (n : Node) :
    Returns EndsLoop (bodyRound exec n) :=
  .after fun _ => .pure fun _ h => leavesLoop_ofRound h

section Rounds

variable {α : Type}

/-- A round that is the last decides the flow; otherwise the rest does. -/
theorem returns_roundThen {round : Run (Option Flow)} {rest : Run Flow}
    (hround : Returns EndsLoop round) (hrest : Returns Flow.LeavesLoop rest) :
    Returns Flow.LeavesLoop (roundThen round rest) := by
  refine .bind hround fun last hlast => ?_
  cases last with
  | none => exact hrest
  | some flow => exact .pure (hlast flow rfl)

theorem returns_roundsAlong {p : Progression} {round : Int → Nat → Run (Option Flow)}
    (hround : ∀ counter position, Returns EndsLoop (round counter position)) (counter : Int)
    (position : Nat) : Returns Flow.LeavesLoop (roundsAlong p round counter position) :=
  roundsAlong_induct (P := Returns Flow.LeavesLoop) (.pure leavesLoop_next)
    (fun counter position _ => returns_roundThen (hround counter position)) counter position

theorem returns_roundsWithin {round : Nat → Run (Option Flow)}
    (hround : ∀ position, Returns EndsLoop (round position)) (fuel position : Nat) :
    Returns Flow.LeavesLoop (roundsWithin round fuel position) :=
  roundsWithin_induct (P := Returns Flow.LeavesLoop) (.throw Failure.outOfFuel)
    (fun position _ => returns_roundThen (hround position)) fuel position

theorem returns_roundsOver {round : Nat → α → Run (Option Flow)} {atEnd : Run Flow}
    (hround : ∀ position a, Returns EndsLoop (round position a))
    (hend : Returns Flow.LeavesLoop atEnd) (items : List α) (position : Nat) :
    Returns Flow.LeavesLoop (roundsOver round atEnd items position) :=
  roundsOver_induct (P := Returns Flow.LeavesLoop) hend
    (fun position a _ => returns_roundThen (hround position a)) items position

/-- The visits of a list come to no signal. -/
theorem returns_visit (round : Nat → Value → Run (Flow × Value)) (items : List (Nat × Value)) :
    Returns (fun p => ∀ flow, p.1 = .ok flow → flow.LeavesLoop) (visit round items) := by
  induction items with
  | nil =>
    refine .pure fun flow h => ?_
    cases h
    exact leavesLoop_next
  | cons item rest ih =>
    obtain ⟨position, v⟩ := item
    refine .after fun result => ?_
    rcases result with failure | ⟨flow, w⟩
    · exact .pure fun flow h => nomatch h
    · dsimp only
      cases hlast : flow.ofRound with
      | none => exact .bind ih fun p hp => .pure hp
      | some last =>
        refine .pure fun flow h => ?_
        cases h
        exact leavesLoop_ofRound hlast

end Rounds

/-! ## Forms -/

/-- The form and the position are the same. -/
def SameForm (s s' : State) : Prop :=
  s'.scope.form = s.scope.form ∧ s'.scope.index = s.scope.index

instance : Frame SameForm where
  refl _ := ⟨rfl, rfl⟩
  trans hst htu := ⟨htu.1.trans hst.1, htu.2.trans hst.2⟩

/-- A scope is put back whatever the body does to it. -/
theorem restoring_sameForm {α : Type} (body : Snapshot → Run α) :
    Keeps SameForm (restoring body) := fun _ => ⟨rfl, rfl⟩

theorem consult_sameForm {α : Type} (h : Host) (question : Database → Answer α) :
    Keeps SameForm (consult h question) := by
  unfold consult
  split
  · exact .fail _
  · dsimp only
    split
    · exact .bind (fun _ => ⟨rfl, rfl⟩) fun _ => .ofExcept _
    · exact .ofExcept _

/-! ## Loops -/

variable (h : Host) (fuel : Nat) (exec : Node → Run Flow) (n : Node)

theorem loop_sameForm : Keeps SameForm (loop h fuel exec n) := by
  unfold loop
  split
  · exact .bind (.ask _) fun _ => restoring_sameForm _
  · split
    · exact restoring_sameForm _
    · exact .fail _

theorem loop_leavesLoop : Returns Flow.LeavesLoop (loop h fuel exec n) := by
  unfold loop
  split
  · refine .after fun p => .restoring fun _ => returns_roundsAlong (fun counter position => ?_) _ _
    exact .after fun _ => returns_bodyRound exec n
  · split
    · refine .restoring fun _ => returns_roundsWithin (fun position => .after fun holds => ?_) _ _
      cases holds with
      | true => exact .after fun _ => returns_bodyRound exec n
      | false => exact .pure endsLoop_next
    · exact .fail _

theorem stackLoop_sameForm : Keeps SameForm (stackLoop h fuel exec n) := by
  refine .bind (.ask _) fun source => ?_
  split
  · exact .fail _
  · exact restoring_sameForm _

theorem stackLoop_leavesLoop : Returns Flow.LeavesLoop (stackLoop h fuel exec n) := by
  refine .after fun source => ?_
  split
  · exact .fail _
  · refine .restoring fun saved =>
      returns_roundsWithin (fun position => .after fun element => ?_) _ _
    cases element with
    | none => exact .pure endsLoop_next
    | some element => exact .after fun _ => returns_bodyRound exec n

theorem reader_sameForm : Keeps SameForm (reader h exec n) :=
  .bind (.ask _) fun _ => .bind (consult_sameForm h _) fun _ => restoring_sameForm _

theorem endOfRows_leavesLoop (cursor : Cursor) : Returns Flow.LeavesLoop (endOfRows cursor) := by
  unfold endOfRows
  split
  · exact .pure leavesLoop_next
  · exact .fail _

theorem reader_leavesLoop : Returns Flow.LeavesLoop (reader h exec n) := by
  refine .after fun statement => .after fun cursor => .restoring fun saved =>
    returns_roundsOver (fun position row => ?_) (endOfRows_leavesLoop cursor) _ _
  exact .after fun _ => returns_bodyRound exec n

/-! ### Traversals -/

theorem release_leavesLoop {r : Except Failure Flow} (hr : ∀ flow, r = .ok flow → flow.LeavesLoop) :
    Returns Flow.LeavesLoop (release r) := by
  cases r with
  | ok flow => exact .pure (hr flow rfl)
  | error e => exact .throw e

theorem traverse_leavesLoop : Returns Flow.LeavesLoop (traverse h exec n) := by
  refine .after fun t => .bind (.restoring fun _ => returns_visit _ _) fun visited hvisited => ?_
  dsimp only
  split
  · exact release_leavesLoop hvisited
  · exact .after fun _ => release_leavesLoop hvisited

/-- Visiting a list always comes to an end of its own: failures are held back. -/
theorem visit_ok (round : Nat → Value → Run (Flow × Value)) (items : List (Nat × Value))
    (s : State) : ∃ p, (visit round items s).1 = .ok p := by
  induction items generalizing s with
  | nil => exact ⟨_, rfl⟩
  | cons item rest ih =>
    obtain ⟨position, v⟩ := item
    rw [visit, bind_apply, attempt_apply]
    rcases round position v s with ⟨failure | ⟨flow, w⟩, t⟩
    · exact ⟨_, rfl⟩
    · dsimp only
      cases flow.ofRound with
      | some last => exact ⟨_, rfl⟩
      | none =>
        obtain ⟨p, hp⟩ := ih t
        dsimp only
        rw [bind_apply]
        rcases hr : visit round rest t with ⟨_ | q, u⟩
        · rw [hr] at hp
          contradiction
        · exact ⟨_, rfl⟩

/-- A traversal visits its list, and then writes it back if it names what to
write. -/
theorem traverse_apply {t : Traversal} {s : State} (ht : h.traversal n s.scope = .ok t) :
    ∃ last visited u, visitAll exec n t s = (.ok (last, visited), u) ∧ SameForm s u ∧
      traverse h exec n s = (last, if t.updates.isEmpty then u else
        { u with scope := u.scope.set t.source (.list (t.listOf visited)) }) := by
  obtain ⟨⟨last, visited⟩, hvisit⟩ :=
    visit_ok (visitRound exec n t.updates s.scope.save) t.visits s
  have hsame : SameForm s (visitAll exec n t s).2 := restoring_sameForm _ s
  obtain ⟨u, hu⟩ : ∃ u, visitAll exec n t s = (.ok (last, visited), u) :=
    ⟨_, Prod.ext hvisit rfl⟩
  rw [hu] at hsame
  refine ⟨last, visited, u, hu, hsame, ?_⟩
  rw [traverse, bind_apply, ask_apply, ht]
  simp only [Except.mapError, bind_apply, hu]
  split
  · rw [release_apply]
  · rw [bind_apply, updateScope_apply]
    exact release_apply _ _

/-- The form as a whole is no list, so it is not traversed. -/
theorem traversal_source {c : Context} {t : Traversal} (ht : h.traversal n c = .ok t) :
    t.source ≠ "form" := by
  have hform (source : String) (items : List Value) (hl : listAt n source c = .ok items) :
      source ≠ "form" := by
    rintro rfl
    have hget : c.get "form" = some (.record c.form) := by
      rw [Context.get, show Context.inForm? "form" = none by decide]
      rfl
    rw [listAt, hget] at hl
    contradiction
  unfold Host.traversal at ht
  repeat' split at ht
  all_goals cases ht
  next hl => exact hform _ _ hl

end Run

/-! ## What a loop leaves -/

/-- An instruction that runs its children in rounds. -/
def Instruction.isLoop : Instruction → Bool
  | loop | traverse | stackLoop | reader => true
  | _ => false

/-- A node that writes a list back into the form: it traverses the list at a path in
the form, and names what is to be updated. -/
structure WritesBack (h : Host) (i : Instruction) (n : Node) (c : Context) (t : Traversal)
    (path : String) : Prop where
  isTraverse : i = .traverse
  traversal : h.traversal n c = .ok t
  updates : t.updates ≠ []
  inForm : Context.inForm? t.source = some path

/-- What a loop leaves that was begun in `s` and came to `result` in the scope `c`. -/
structure LoopLeaves (h : Host) (fuel : Nat) (i : Instruction) (n : Node) (s : State)
    (result : Except Failure Flow) (c : Context) : Prop where
  index : c.index = s.scope.index
  form : (∀ t path, ¬ WritesBack h i n s.scope t path) → c.form = s.scope.form
  /-- The visits end with a list, and that is what is new in the form. -/
  written : ∀ t path, WritesBack h i n s.scope t path → ∃ last visited,
    (visitAll (execute h fuel) n t (beginning n s)).1 = .ok (last, visited) ∧
      c.form = Record.assign s.scope.form path (.list (t.listOf visited))
  notSkip : result ≠ .ok .skip
  notLeave : result ≠ .ok .leave

namespace LoopLeaves

variable {h : Host} {fuel : Nat} {i : Instruction} {n : Node} {s s' : State}
  {result : Except Failure Flow}

/-- A loop that puts the form back and writes nothing into it. -/
theorem of_sameForm (hsame : SameForm s s') (hno : ∀ t path, ¬ WritesBack h i n s.scope t path)
    (hr : ∀ flow, result = .ok flow → flow.LeavesLoop) :
    LoopLeaves h fuel i n s result s'.scope where
  index := hsame.2
  form _ := hsame.1
  written t path hw := absurd hw (hno t path)
  notSkip hskip := (hr _ hskip).1 rfl
  notLeave hleave := (hr _ hleave).2 rfl

theorem of_ne_traverse (hi : i ≠ .traverse) (hsame : SameForm s s')
    (hr : ∀ flow, result = .ok flow → flow.LeavesLoop) : LoopLeaves h fuel i n s result s'.scope :=
  of_sameForm hsame (fun _ _ hw => hi hw.isTraverse) hr

end LoopLeaves

namespace Run

/-- The list of a traversal is written back at a path in the form, or where the
form is not touched. -/
theorem traverse_loopLeaves (h : Host) (fuel : Nat) (n : Node) (s : State) :
    LoopLeaves h fuel .traverse n s (traverse h (execute h fuel) n (beginning n s)).1
      (traverse h (execute h fuel) n (beginning n s)).2.scope := by
  have hr (flow : Flow) := traverse_leavesLoop h (execute h fuel) n (beginning n s) flow
  cases ht : h.traversal n s.scope with
  | error e =>
    have hrun : traverse h (execute h fuel) n (beginning n s) =
        (.error (.error e), beginning n s) := by
      rw [traverse, bind_apply, ask_apply]
      simp only [beginning, ht, Except.mapError]
    rw [hrun] at hr ⊢
    refine .of_sameForm ⟨rfl, rfl⟩ (fun t path hw => ?_) hr
    rw [hw.traversal] at ht
    contradiction
  | ok t =>
    obtain ⟨last, visited, u, hvisit, hsame, hrun⟩ :=
      traverse_apply h (execute h fuel) n (s := beginning n s) ht
    rw [hrun] at hr ⊢
    by_cases hupdates : t.updates = []
    · rw [if_pos (by simp [hupdates])] at hr ⊢
      refine .of_sameForm hsame (fun t' path hw => ?_) hr
      cases ht.symm.trans hw.traversal
      exact hw.updates hupdates
    · rw [if_neg (by simpa using hupdates)] at hr ⊢
      cases hpath : Context.inForm? t.source with
      | none =>
        have hset : (u.scope.set t.source (.list (t.listOf visited))).form = u.scope.form ∧
            (u.scope.set t.source (.list (t.listOf visited))).index = u.scope.index := by
          rw [Context.set, hpath, if_neg (traversal_source h n ht)]
          exact ⟨rfl, rfl⟩
        refine .of_sameForm (Frame.trans hsame hset) (fun t' path hw => ?_) hr
        cases ht.symm.trans hw.traversal
        exact absurd hw.inForm (by simp [hpath])
      | some path =>
        have hset : u.scope.set t.source (.list (t.listOf visited)) =
            { u.scope with
              form := Record.assign u.scope.form path (.list (t.listOf visited)) } := by
          rw [Context.set, hpath]
        rw [hset]
        refine ⟨hsame.2, fun hno => absurd ⟨rfl, ht, hupdates, hpath⟩ (hno t path), ?_,
          fun hskip => (hr _ hskip).1 rfl, fun hleave => (hr _ hleave).2 rfl⟩
        intro t' path' hw
        cases ht.symm.trans hw.traversal
        cases hpath.symm.trans hw.inForm
        refine ⟨last, visited, by rw [hvisit], ?_⟩
        rw [hsame.1]
        rfl

/-- **Loops restore their scope.**  Whatever the body does and however the loop
ends, the position is the one from before it, and so is the form, but for the list
that a traversal writes back into it.  No loop signal comes out. -/
theorem loop_restores_scope {h : Host} {n : Node} {i : Instruction}
    (hi : h.registry.find? n.name = some i) (hloop : i.isLoop = true) (fuel : Nat) (s : State) :
    LoopLeaves h fuel i n s (execute h (fuel + 1) n s).1 (execute h (fuel + 1) n s).2.scope := by
  have hrun := execute_known hi fuel s
  cases i with
  | loop =>
    rw [hrun]
    exact .of_ne_traverse nofun (loop_sameForm h fuel (execute h fuel) n (beginning n s))
      (loop_leavesLoop h fuel (execute h fuel) n (beginning n s))
  | stackLoop =>
    rw [hrun]
    exact .of_ne_traverse nofun (stackLoop_sameForm h fuel (execute h fuel) n (beginning n s))
      (stackLoop_leavesLoop h fuel (execute h fuel) n (beginning n s))
  | reader =>
    rw [hrun]
    exact .of_ne_traverse nofun (reader_sameForm h (execute h fuel) n (beginning n s))
      (reader_leavesLoop h (execute h fuel) n (beginning n s))
  | traverse =>
    rw [hrun]
    exact traverse_loopLeaves h fuel n s
  | _ => contradiction

/-- A traversal of the items in the form that renames the first and leaves. -/
def renameFirst : Node :=
  { name := "traverse", attributes := [("source", "form.items"), ("update", "value")],
    children :=
      [{ name := "set", attributes := [("ref", "form.value"), ("value", "one")] },
       { name := "break" }] }

/-- Two items in the form. -/
def twoItems : Context := { form := [("items", .list [.text "1", .text "2"])] }

theorem loop_restores_scope_renameFirst :
    let h := Host.ofLibrary {}
    let s := State.ofScope twoItems
    h.registry.find? renameFirst.name = some .traverse ∧ Instruction.isLoop .traverse = true ∧
      LoopLeaves h 4 .traverse renameFirst s (execute h 5 renameFirst s).1
        (execute h 5 renameFirst s).2.scope :=
  ⟨rfl, rfl, loop_restores_scope rfl rfl 4 _⟩

end Run

end ActionTree
