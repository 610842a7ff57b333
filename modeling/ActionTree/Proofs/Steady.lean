import ActionTree.Proofs.Leaf
import ActionTree.Proofs.LoopScope

/-!
# ActionTree.Proofs.Steady

What every run keeps.

1. a relation between the state that a node begins in and the state that it ends in is
   *lasting* if the primitive changes keep it, and a loop does if the nodes in it do: then
   all nodes keep it, whatever is in them (`Lasting.execute_keeps`);
2. it is *steady* if it also survives that the form and the position are set.  Then
   loops are no matter of their own (`Steady.lasting`).

The primitive changes are what an instruction without inner nodes does, the journal, the
programs that are kept, and entering and leaving sub-programs.  So an invariant of runs is
never shown construct by construct again.  That fields have distinct names is the first
such invariant.
-/

namespace ActionTree

open Run

/-- A relation that the primitive changes keep, and loops with the nodes in them. -/
structure Lasting (h : Host) (R : State → State → Prop) : Prop where
  leaf : ∀ {s t}, Local s t → R s t
  loads : ∀ {s t}, Loads s t → R s t
  record : ∀ s {e : Event}, (∀ id, e ≠ .replayed id) → R s { s with journal := e :: s.journal }
  /-- A node that may replay a stored response, from its beginning to its end. -/
  cache : ∀ {n : Node}, h.registry.find? n.name = some .cache →
    ∀ fuel s, R s (execute h (fuel + 1) n s).2
  loop : ∀ {exec : Node → Run Flow} {i : Instruction}, i.isLoop = true →
    (∀ n, Keeps R (exec n)) → ∀ fuel n, Keeps R (perform h fuel exec i n)
  /-- A program in the caller's scope was entered, and is left. -/
  shared : ∀ {s t : State} {inner : Context} {id : String},
    s.scope.enter? h.config.maxCallDepth = some inner →
      R { s with scope := { inner with base := some id } } t →
        R s { t with scope := { t.scope.leave with base := s.scope.base } }
  /-- A program in a scope of its own was entered, and is left. -/
  isolated : ∀ {s t : State} {parameters : Record} {child : Context} {id : String},
    (s.scope.child parameters id).enter? h.config.maxCallDepth = some child →
      R { s with scope := child } t →
        R s { t with scope := s.scope.importFields (t.scope.exports h.config.exportMarker) }

/-- A relation that the primitive changes keep, setting the form and the position among
them. -/
structure Steady (h : Host) (R : State → State → Prop) : Prop where
  leaf : ∀ {s t}, Local s t → R s t
  loads : ∀ {s t}, Loads s t → R s t
  record : ∀ s {e : Event}, (∀ id, e ≠ .replayed id) → R s { s with journal := e :: s.journal }
  /-- A node that may replay a stored response, from its beginning to its end. -/
  cache : ∀ {n : Node}, h.registry.find? n.name = some .cache →
    ∀ fuel s, R s (execute h (fuel + 1) n s).2
  /-- A loop sets the form and the position. -/
  place : ∀ s form index, R s { s with scope := { s.scope with form := form, index := index } }
  /-- A program in the caller's scope was entered, and is left. -/
  shared : ∀ {s t : State} {inner : Context} {id : String},
    s.scope.enter? h.config.maxCallDepth = some inner →
      R { s with scope := { inner with base := some id } } t →
        R s { t with scope := { t.scope.leave with base := s.scope.base } }
  /-- A program in a scope of its own was entered, and is left. -/
  isolated : ∀ {s t : State} {parameters : Record} {child : Context} {id : String},
    (s.scope.child parameters id).enter? h.config.maxCallDepth = some child →
      R { s with scope := child } t →
        R s { t with scope := s.scope.importFields (t.scope.exports h.config.exportMarker) }

/-! ## Nodes -/

namespace Lasting

variable {h : Host} {R : State → State → Prop} (hR : Lasting h R) [Frame R]

include hR

section Constructs

variable {exec : Node → Run Flow} (hexec : ∀ n, Keeps R (exec n))

include hexec

/-! ### Blocks and switches -/

theorem block (n : Node) : Keeps R (Run.block h exec n) := by
  refine .bind (.ask _) fun entered => ?_
  cases entered with
  | false => exact .pure _
  | true =>
    refine .bind (.attempt (.sequence hexec n.children)) fun result => ?_
    rcases result with (e | _) | flow
    · dsimp only
      split
      · exact .fail e
      · exact (recover_local h n e).mono hR.leaf
    · exact .throw _
    · exact .pure flow

omit hR in
theorem switch (n : Node) : Keeps R (Run.switch h exec n) := by
  refine .bind (.ask _) fun subject => .bind (.ask _) fun branch => ?_
  cases branch with
  | some branch => exact .sequence hexec branch.children
  | none => exact .pure _

/-! ### Sub-programs -/

/-- The nodes of a program, run in a scope that was entered. -/
theorem entered (p : Program) (c : Context) (s : State) :
    R { s with scope := c } (sequence exec p.nodes
      { s with scope := c, journal := .opened p.id :: s.journal }).2 :=
  Frame.trans (hR.record { s with scope := c } (e := .opened p.id) (by simp))
    (Keeps.sequence hexec p.nodes _)

theorem runShared (p : Program) : Keeps R (Run.runShared h exec p) := by
  intro s
  rw [runShared_apply]
  cases hc : s.scope.enter? h.config.maxCallDepth with
  | none => exact Frame.refl s
  | some inner =>
    have hrun := hR.entered hexec p { inner with base := some p.id } s
    exact Frame.trans (hR.shared hc hrun) (hR.record _ (by simp))

theorem runIsolated (n : Node) (p : Program) : Keeps R (Run.runIsolated h exec n p) := by
  intro s
  rw [runIsolated_apply]
  cases hp : h.parameters n s.scope with
  | error e => exact Frame.refl s
  | ok parameters =>
    dsimp only
    cases hc : (s.scope.child parameters p.id).enter? h.config.maxCallDepth with
    | none => exact Frame.refl s
    | some child =>
      have hrun := hR.entered hexec p child s
      exact Frame.trans (hR.isolated hc hrun) (hR.record _ (by simp))

theorem evaluate (n : Node) : Keeps R (Run.evaluate h exec n) := by
  refine .bind ((target_loads h n).mono hR.loads) fun result => ?_
  cases result with
  | ok p => exact hR.runShared hexec p
  | error flow => exact .pure _

theorem call (n : Node) : Keeps R (Run.call h exec n) := by
  refine .bind ((target_loads h n).mono hR.loads) fun result => ?_
  cases result with
  | error flow => exact .pure _
  | ok p =>
    refine .bind (.ask _) fun control => .bind (.ask _) fun shared => .bind ?_ fun flow =>
      (passOn_local n control flow).mono hR.leaf
    cases shared with
    | true => exact hR.runShared hexec p
    | false => exact hR.runIsolated hexec n p

/-! ### All of them -/

theorem perform {i : Instruction} (hi : i ≠ .cache) (fuel : Nat) (n : Node) :
    Keeps R (Run.perform h fuel exec i n) := by
  cases i with
  | cache => exact absurd rfl hi
  | block => exact hR.block hexec n
  | switch => exact switch hexec n
  | loop | traverse | stackLoop | reader => exact hR.loop rfl hexec fuel n
  | evaluate => exact hR.evaluate hexec n
  | call => exact hR.call hexec n
  | _ => exact (perform_local h n rfl).mono hR.leaf

end Constructs

/-- Every node keeps a lasting relation, whatever is in it. -/
theorem execute_keeps (fuel : Nat) (n : Node) : Keeps R (execute h fuel n) := by
  induction fuel generalizing n with
  | zero => exact .throw Failure.outOfFuel
  | succ fuel ih =>
    intro s
    have hbegan : R s (beginning n s) := hR.record s (by simp)
    cases hi : h.registry.find? n.name with
    | none =>
      rw [execute_unknown hi]
      exact Frame.trans hbegan (hR.record (beginning n s) (by simp))
    | some i =>
      by_cases hcache : i = .cache
      · exact hR.cache (hi.trans (congrArg some hcache)) fuel s
      · rw [execute_known hi]
        exact Frame.trans (Frame.trans hbegan (hR.perform ih hcache fuel n (beginning n s)))
          (hR.record _ (by simp))

end Lasting

/-! ## Loops -/

namespace Steady

variable {h : Host} {R : State → State → Prop} (hR : Steady h R)

include hR

/-- A change of the scope that a loop makes. -/
theorem updateScope {f : Context → Context}
    (hf : ∀ c, ∃ form index, f c = { c with form := form, index := index }) :
    Keeps R (Run.updateScope f) := by
  intro s
  obtain ⟨form, index, hc⟩ := hf s.scope
  rw [updateScope_apply, hc]
  exact hR.place s form index

theorem bindElement (saved : Snapshot) (element : Value) (field : Option String)
    (position : Nat) : Keeps R (Run.bindElement saved element field position) := by
  refine hR.updateScope fun c => ?_
  unfold Context.bind
  split <;> exact ⟨_, _, rfl⟩

theorem bindCounter (counter : Int) (field : Option String) (position : Nat) :
    Keeps R (Run.bindCounter counter field position) := by
  refine hR.updateScope fun c => ?_
  cases field <;> exact ⟨_, _, rfl⟩

variable [Frame R]

theorem restoring {α : Type} {body : Snapshot → Run α} (hbody : ∀ saved, Keeps R (body saved)) :
    Keeps R (Run.restoring body) := by
  intro s
  exact Frame.trans (hbody _ s) (hR.place _ s.scope.form s.scope.index)

section Constructs

variable {exec : Node → Run Flow} (hexec : ∀ n, Keeps R (exec n))

include hexec

omit hR in
theorem bodyRound (n : Node) : Keeps R (Run.bodyRound exec n) :=
  .bind (.sequence hexec n.children) fun _ => .pure _

theorem loop (fuel : Nat) (n : Node) : Keeps R (Run.loop h fuel exec n) := by
  unfold Run.loop
  split
  · refine .bind (.ask _) fun p => hR.restoring fun _ => .roundsAlong (fun counter position => ?_) _ _
    exact .bind (hR.bindCounter _ _ _) fun _ => bodyRound hexec n
  · split
    · refine hR.restoring fun _ =>
        .roundsWithin (fun position => .bind (.ask _) fun holds => ?_) _ _
      cases holds with
      | true =>
        exact .bind (hR.updateScope fun c => ⟨c.form, _, rfl⟩) fun _ => bodyRound hexec n
      | false => exact .pure _
    · exact .fail _

theorem traverse (n : Node) : Keeps R (Run.traverse h exec n) := by
  refine .bind (.ask _) fun t => .bind (hR.restoring fun saved => .visit (fun position v => ?_) _)
    fun visited => ?_
  · exact .bind (hR.bindElement _ _ _ _) fun _ => .bind (.sequence hexec _) fun _ =>
      .bind .scope fun _ => .pure _
  · dsimp only
    split
    · exact .release _
    · refine .bind (Keeps.mono (R := Local) ?_ hR.leaf) fun _ => .release _
      exact Local.updateScope fun c => c.stays_set _ _

theorem stackLoop (fuel : Nat) (n : Node) : Keeps R (Run.stackLoop h fuel exec n) := by
  refine .bind (.ask _) fun source => ?_
  split
  · exact .fail _
  · refine hR.restoring fun saved => .roundsWithin
      (fun position => .bind ((pop_local source).mono hR.leaf) fun element => ?_) _ _
    cases element with
    | none => exact .pure _
    | some element => exact .bind (hR.bindElement _ _ _ _) fun _ => bodyRound hexec n

theorem reader (n : Node) : Keeps R (Run.reader h exec n) := by
  refine .bind (.ask _) fun statement => .bind ((consult_local h _).mono hR.leaf) fun cursor =>
    hR.restoring fun saved => .roundsOver (fun position row => ?_) ?_ _ _
  · exact .bind (hR.bindElement _ _ _ _) fun _ => bodyRound hexec n
  · exact (endOfRows_local cursor).mono hR.leaf

/-- A loop keeps a steady relation if the nodes in it do. -/
theorem perform_loop {i : Instruction} (hi : i.isLoop = true) (fuel : Nat) (n : Node) :
    Keeps R (Run.perform h fuel exec i n) := by
  cases i with
  | loop => exact hR.loop hexec fuel n
  | traverse => exact hR.traverse hexec n
  | stackLoop => exact hR.stackLoop hexec fuel n
  | reader => exact hR.reader hexec n
  | _ => contradiction

end Constructs

/-- A steady relation is a lasting one. -/
theorem lasting : Lasting h R where
  leaf := hR.leaf
  loads := hR.loads
  record := hR.record
  cache := hR.cache
  loop hi hexec fuel n := hR.perform_loop hexec hi fuel n
  shared := hR.shared
  isolated := hR.isolated

/-- Every node keeps a steady relation, whatever is in it. -/
theorem execute_keeps (fuel : Nat) (n : Node) : Keeps R (execute h fuel n) :=
  hR.lasting.execute_keeps fuel n

end Steady

/-! ## Distinct names -/

/-- Fields with distinct names have distinct names afterwards. -/
def StayDistinct (s s' : State) : Prop :=
  Record.Distinct s.scope.fields → Record.Distinct s'.scope.fields

instance : Frame StayDistinct where
  refl _ := id
  trans hst htu hs := htu (hst hs)

theorem steady_stayDistinct (h : Host) : Steady h StayDistinct where
  leaf hl := hl.scope.distinct
  loads hl := by
    obtain ⟨_, rfl⟩ := hl
    exact id
  record _ _ _ := id
  cache hi fuel s hs := by
    rw [execute_known hi]
    change Record.Distinct (Run.cache h _ (beginning _ s)).2.scope.fields
    rw [cache_scope]
    exact hs
  place _ _ _ := id
  shared hc hrun hs := by
    obtain ⟨-, rfl⟩ := Context.enter?_eq_some.mp hc
    exact hrun hs
  isolated _ _ hs := Record.distinct_merge hs _

end ActionTree
