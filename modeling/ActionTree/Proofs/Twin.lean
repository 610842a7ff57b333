import ActionTree.Engine
import ActionTree.Proofs.Run

/-!
# ActionTree.Proofs.Twin

Runs that go alike from two states.

A relation between states is one of *twins* if no primitive tells two related states
apart: they have the same scope and the same settings, changes that are made to both
leave them related, and every program that is looked for is found by both or by
neither.  From twins every run has the same result, and ends in twins
(`executeAll_alike`, `executeProgram_alike`).

What may differ between twins is what they keep of programs and what is in their
journals.
-/

namespace ActionTree

open Run

/-- A relation between states that no primitive tells apart. -/
structure Twins (h : Host) (R : State → State → Prop) : Prop where
  scope : ∀ {s t}, R s t → s.scope = t.scope
  output : ∀ {s t}, R s t → s.output = t.output
  setScope : ∀ {s t}, R s t → ∀ c, R { s with scope := c } { t with scope := c }
  setOutput : ∀ {s t}, R s t → ∀ o, R { s with output := o } { t with output := o }
  record : ∀ {s t}, R s t → ∀ e,
    R { s with journal := e :: s.journal } { t with journal := e :: t.journal }
  /-- A program that both look for. -/
  load : ∀ {s t}, R s t → ∀ id,
    (s.programs.load h.source h.registry id).1 = (t.programs.load h.source h.registry id).1 ∧
      R { s with programs := (s.programs.load h.source h.registry id).2 }
        { t with programs := (t.programs.load h.source h.registry id).2 }

namespace Run

/-- From related states a run has the same result, and ends in related states. -/
def Alike {α : Type} (R : State → State → Prop) (x : Run α) : Prop :=
  ∀ s t, R s t → (x s).1 = (x t).1 ∧ R (x s).2 (x t).2

/-! ## Any relation -/

namespace Alike

variable {α β : Type} {R : State → State → Prop}

theorem pure (a : α) : Alike R (Pure.pure a : Run α) := fun _ _ hst => ⟨rfl, hst⟩

theorem throw (e : Failure) : Alike R (MonadExcept.throw e : Run α) := fun _ _ hst => ⟨rfl, hst⟩

theorem fail (e : Error) : Alike R (Run.fail e : Run α) := throw (.error e)

theorem ofExcept (r : Except Error α) : Alike R (Run.ofExcept r) := by
  intro s t hst
  rw [ofExcept_apply, ofExcept_apply]
  exact ⟨rfl, hst⟩

theorem release (r : Except Failure α) : Alike R (Run.release r) := by
  intro s t hst
  rw [release_apply, release_apply]
  exact ⟨rfl, hst⟩

/-- Two runs that come to one result and to related states may be gone on from alike. -/
theorem bind_of {x y : Run α} {f : α → Run β} {s t : State} (hresult : (x s).1 = (y t).1)
    (hend : R (x s).2 (y t).2) (hf : ∀ a, Alike R (f a)) :
    ((x >>= f) s).1 = ((y >>= f) t).1 ∧ R ((x >>= f) s).2 ((y >>= f) t).2 := by
  rw [bind_apply, bind_apply]
  rcases hs : x s with ⟨r, s'⟩
  rcases ht : y t with ⟨r', t'⟩
  rw [hs, ht] at hresult hend
  obtain rfl : r = r' := hresult
  cases r with
  | error e => exact ⟨rfl, hend⟩
  | ok a => exact hf a s' t' hend

theorem bind {x : Run α} {f : α → Run β} (hx : Alike R x) (hf : ∀ a, Alike R (f a)) :
    Alike R (x >>= f) := by
  intro s t hst
  obtain ⟨hresult, hend⟩ := hx s t hst
  exact bind_of hresult hend hf

theorem attempt {x : Run α} (hx : Alike R x) : Alike R (Run.attempt x) := by
  intro s t hst
  obtain ⟨hresult, hend⟩ := hx s t hst
  rw [attempt_apply, attempt_apply, hresult]
  exact ⟨rfl, hend⟩

theorem sequence {exec : Node → Run Flow} (hexec : ∀ n, Alike R (exec n)) (nodes : List Node) :
    Alike R (Run.sequence exec nodes) := by
  induction nodes with
  | nil => exact pure Flow.next
  | cons n ns ih =>
    refine bind (hexec n) fun flow => ?_
    cases flow with
    | next => exact ih
    | _ => exact pure _

theorem roundThen {round : Run (Option Flow)} {rest : Run Flow} (hround : Alike R round)
    (hrest : Alike R rest) : Alike R (roundThen round rest) := by
  refine bind hround fun last => ?_
  cases last with
  | none => exact hrest
  | some flow => exact pure flow

theorem visit {round : Nat → Value → Run (Flow × Value)}
    (hround : ∀ position v, Alike R (round position v)) (items : List (Nat × Value)) :
    Alike R (Run.visit round items) := by
  induction items with
  | nil => exact pure _
  | cons item rest ih =>
    obtain ⟨position, v⟩ := item
    refine bind (attempt (hround position v)) fun result => ?_
    rcases result with failure | ⟨flow, w⟩
    · exact pure _
    · dsimp only
      cases flow.ofRound with
      | some last => exact pure _
      | none => exact bind ih fun _ => pure _

end Alike

end Run

namespace Twins

variable {h : Host} {R : State → State → Prop} (hR : Twins h R)

include hR

/-! ## Primitives -/

theorem scope_alike : Alike R Run.scope := by
  intro s t hst
  rw [scope_apply, scope_apply, hR.scope hst]
  exact ⟨rfl, hst⟩

theorem output_alike : Alike R Run.output := by
  intro s t hst
  rw [output_apply, output_apply, hR.output hst]
  exact ⟨rfl, hst⟩

theorem ask {α : Type} (question : Context → Except Error α) : Alike R (Run.ask question) :=
  .bind hR.scope_alike fun c => .ofExcept (question c)

/-- The same change of the scope of both. -/
theorem mapScope {s t : State} (hst : R s t) (f : Context → Context) :
    R { s with scope := f s.scope } { t with scope := f t.scope } := by
  rw [← hR.scope hst]
  exact hR.setScope hst (f s.scope)

theorem updateScope (f : Context → Context) : Alike R (Run.updateScope f) :=
  fun _ _ hst => ⟨rfl, hR.mapScope hst f⟩

theorem updateOutput (f : Settings → Settings) : Alike R (Run.updateOutput f) := by
  intro s t hst
  rw [updateOutput_apply, updateOutput_apply, hR.output hst]
  exact ⟨rfl, hR.setOutput hst _⟩

theorem record_alike (e : Event) : Alike R (Run.record e) := fun _ _ hst => ⟨rfl, hR.record hst e⟩

theorem load_alike (id : String) : Alike R (Run.load h id) := by
  intro s t hst
  obtain ⟨hresult, hend⟩ := hR.load hst id
  rw [load_apply, load_apply, hresult]
  exact ⟨rfl, hend⟩

/-- A body that finds the same scope saved, with that scope put back behind it. -/
theorem restoring {α : Type} {body : Snapshot → Run α} (hbody : ∀ saved, Alike R (body saved)) :
    Alike R (Run.restoring body) := by
  intro s t hst
  obtain ⟨hresult, hend⟩ := hbody s.scope.save s t hst
  rw [restoring_apply, restoring_apply, ← hR.scope hst]
  exact ⟨hresult, hR.mapScope hend fun c => c.restore s.scope.save⟩

/-! ## Instructions without nodes further in -/

theorem assign (n : Node) : Alike R (Run.assign h n) :=
  .bind (hR.ask _) fun _ => .bind (hR.ask _) fun _ => .bind (hR.updateScope _) fun _ => .pure _

theorem unset (n : Node) : Alike R (Run.unset h n) :=
  .bind (hR.ask _) fun _ => .bind (hR.updateScope _) fun _ => .pure _

theorem push (n : Node) : Alike R (Run.push h n) :=
  .bind (hR.ask _) fun _ => .bind (hR.ask _) fun _ => .bind (hR.updateScope _) fun _ => .pure _

theorem user (n : Node) : Alike R (Run.user h n) :=
  .bind (hR.ask _) fun _ => .bind (hR.updateScope _) fun _ => .pure _

theorem consult {α : Type} (question : Database → Answer α) : Alike R (Run.consult h question) := by
  unfold Run.consult
  split
  · exact .fail _
  · dsimp only
    split
    · exact .bind (hR.record_alike _) fun _ => .ofExcept _
    · exact .ofExcept _

theorem writeRows (n : Node) (view : List Record → Value) : Alike R (Run.writeRows h n view) :=
  .bind (hR.ask _) fun _ => .bind (hR.ask _) fun _ => .bind (hR.consult _) fun _ =>
    .bind (hR.updateScope _) fun _ => .pure _

theorem signal (n : Node) (flow : Flow) : Alike R (Run.signal n flow) :=
  .bind (hR.ask _) fun _ => .pure _

theorem reply (n : Node) : Alike R (Run.reply h n) := by
  refine .bind (hR.ask _) fun payload => .bind (hR.ask _) fun status => ?_
  cases status with
  | none => exact .pure _
  | some status => exact .bind (hR.ask _) fun _ => .pure _

theorem failWith (n : Node) : Alike R (Run.failWith h n) :=
  .bind (hR.ask _) fun _ => .bind (hR.ask _) fun _ => .fail _

theorem require (n : Node) : Alike R (Run.require h n) := by
  refine .bind (hR.ask _) fun privilege => ?_
  split
  · exact .pure _
  · exact .fail _

theorem header (n : Node) : Alike R (Run.header h n) :=
  .bind (hR.ask _) fun _ => .bind (hR.updateOutput _) fun _ => .pure _

theorem write (n : Node) : Alike R (Run.write h n) :=
  .bind (hR.ask _) fun _ => .bind (hR.updateOutput _) fun _ => .pure _

theorem log (n : Node) : Alike R (Run.log h n) :=
  .bind (hR.ask _) fun _ => .bind hR.scope_alike fun _ => .bind (hR.record_alike _) fun _ =>
    .pure _

theorem format (n : Node) : Alike R (Run.format h n) :=
  .bind (hR.ask _) fun _ => .bind (hR.updateOutput _) fun _ => .pure _

theorem compress (n : Node) : Alike R (Run.compress h n) :=
  .bind (hR.ask _) fun _ => .bind (hR.updateOutput _) fun _ => .pure _

theorem consultCache (d : Directive) : Alike R (Run.consultCache h d) := by
  unfold Run.consultCache
  split
  · exact .bind (hR.record_alike _) fun _ => .bind (hR.updateOutput _) fun _ => .pure _
  · exact .bind (hR.updateOutput _) fun _ => .pure _

theorem cache (n : Node) : Alike R (Run.cache h n) := by
  refine .bind hR.output_alike fun o => ?_
  split
  · exact .pure _
  · exact .bind (hR.ask _) fun d => hR.consultCache d

theorem notModified (n : Node) : Alike R (Run.notModified h n) := by
  refine .bind (hR.ask _) fun tag => .bind (hR.ask _) fun date => ?_
  split
  · exact .bind (hR.updateOutput _) fun _ => .pure _
  · exact .bind (hR.updateOutput _) fun _ => .pure _

/-! ## Loops -/

section Constructs

variable {exec : Node → Run Flow} (hexec : ∀ n, Alike R (exec n))

include hexec

omit hR in
theorem bodyRound (n : Node) : Alike R (Run.bodyRound exec n) :=
  .bind (.sequence hexec n.children) fun _ => .pure _

theorem loop (fuel : Nat) (n : Node) : Alike R (Run.loop h fuel exec n) := by
  unfold Run.loop
  split
  · refine .bind (hR.ask _) fun p => hR.restoring fun _ => ?_
    refine roundsAlong_induct (.pure _) (fun counter position _ => .roundThen ?_) _ _
    exact .bind (hR.updateScope _) fun _ => bodyRound hexec n
  · split
    · refine hR.restoring fun _ => ?_
      refine roundsWithin_induct (.throw _) (fun position _ => .roundThen ?_) _ _
      refine .bind (hR.ask _) fun holds => ?_
      cases holds with
      | true => exact .bind (hR.updateScope _) fun _ => bodyRound hexec n
      | false => exact .pure _
    · exact .fail _

theorem traverse (n : Node) : Alike R (Run.traverse h exec n) := by
  refine .bind (hR.ask _) fun t => .bind (hR.restoring fun saved => .visit (fun position v => ?_) _)
    fun visited => ?_
  · exact .bind (hR.updateScope _) fun _ => .bind (.sequence hexec _) fun _ =>
      .bind hR.scope_alike fun _ => .pure _
  · dsimp only
    split
    · exact .release _
    · exact .bind (hR.updateScope _) fun _ => .release _

omit hexec in
theorem pop (source : String) : Alike R (Run.pop source) := by
  refine .bind hR.scope_alike fun c => ?_
  split
  · split
    · exact .pure _
    · exact .bind (hR.updateScope _) fun _ => .pure _
  · exact .pure _

theorem stackLoop (fuel : Nat) (n : Node) : Alike R (Run.stackLoop h fuel exec n) := by
  refine .bind (hR.ask _) fun source => ?_
  split
  · exact .fail _
  · refine hR.restoring fun saved => ?_
    refine roundsWithin_induct (.throw _) (fun position _ => .roundThen ?_) _ _
    refine .bind (hR.pop source) fun element => ?_
    cases element with
    | none => exact .pure _
    | some element => exact .bind (hR.updateScope _) fun _ => bodyRound hexec n

theorem reader (n : Node) : Alike R (Run.reader h exec n) := by
  refine .bind (hR.ask _) fun statement => .bind (hR.consult _) fun cursor =>
    hR.restoring fun saved => ?_
  refine roundsOver_induct ?_ (fun position row _ => .roundThen ?_) _ _
  · unfold endOfRows
    split
    · exact .pure _
    · exact .fail _
  · exact .bind (hR.updateScope _) fun _ => bodyRound hexec n

/-! ## Blocks and switches -/

omit hexec in
theorem recover (n : Node) (e : Error) : Alike R (Run.recover h n e) := by
  refine .bind (hR.ask _) fun inhibited => ?_
  cases inhibited with
  | true => exact .bind (hR.updateScope _) fun _ => .pure _
  | false =>
    refine .bind (hR.ask _) fun message => ?_
    cases message with
    | some message => exact .pure _
    | none => exact .fail e

theorem block (n : Node) : Alike R (Run.block h exec n) := by
  refine .bind (hR.ask _) fun entered => ?_
  cases entered with
  | false => exact .pure _
  | true =>
    refine .bind (.attempt (.sequence hexec n.children)) fun result => ?_
    rcases result with (e | _) | flow
    · dsimp only
      split
      · exact .fail e
      · exact hR.recover n e
    · exact .throw _
    · exact .pure flow

theorem switch (n : Node) : Alike R (Run.switch h exec n) := by
  refine .bind (hR.ask _) fun subject => .bind (hR.ask _) fun branch => ?_
  cases branch with
  | some branch => exact .sequence hexec branch.children
  | none => exact .pure _

/-! ## Sub-programs -/

omit hexec in
theorem target (n : Node) : Alike R (Run.target h n) := by
  refine .bind (hR.ask _) fun src => .bind hR.scope_alike fun c =>
    .bind (hR.load_alike _) fun loaded => ?_
  split
  · exact .pure _
  · refine .bind (hR.ask _) fun inhibited => ?_
    cases inhibited with
    | true => exact .pure _
    | false => exact .pure _
  · exact .fail _

/-- A sub-program that is entered with the same scope, and left the same way. -/
theorem inside (p : Program) (c : Context) (after : Context → Context) :
    Alike R (Run.inside exec p c after) := by
  intro s t hst
  have hbegin := hR.record (hR.setScope hst c) (.opened p.id)
  obtain ⟨hresult, hend⟩ := Alike.sequence hexec p.nodes _ _ hbegin
  rw [inside_apply, inside_apply]
  exact ⟨hresult, hR.record (hR.mapScope hend after) (.closed p.id)⟩

theorem runShared (p : Program) : Alike R (Run.runShared h exec p) := by
  refine .bind hR.scope_alike fun c => ?_
  split
  · exact .fail _
  · exact hR.inside hexec p _ _

theorem runIsolated (n : Node) (p : Program) : Alike R (Run.runIsolated h exec n p) := by
  refine .bind (hR.ask _) fun parameters => .bind hR.scope_alike fun c => ?_
  split
  · exact .fail _
  · exact hR.inside hexec p _ _

theorem evaluate (n : Node) : Alike R (Run.evaluate h exec n) := by
  refine .bind (hR.target n) fun result => ?_
  cases result with
  | ok p => exact hR.runShared hexec p
  | error flow => exact .pure _

omit hexec in
theorem passOn (n : Node) (control : Bool) (flow : Flow) : Alike R (Run.passOn n control flow) := by
  cases flow with
  | reply r =>
    cases control with
    | true => exact .pure _
    | false => exact .bind (hR.updateScope _) fun _ => .pure _
  | _ => exact .pure _

theorem call (n : Node) : Alike R (Run.call h exec n) := by
  refine .bind (hR.target n) fun result => ?_
  cases result with
  | error flow => exact .pure _
  | ok p =>
    refine .bind (hR.ask _) fun control => .bind (hR.ask _) fun shared => .bind ?_ fun flow =>
      hR.passOn n control flow
    cases shared with
    | true => exact hR.runShared hexec p
    | false => exact hR.runIsolated hexec n p

/-! ## Nodes -/

theorem perform (fuel : Nat) (i : Instruction) (n : Node) :
    Alike R (Run.perform h fuel exec i n) := by
  cases i with
  | assign => exact hR.assign n
  | unset => exact hR.unset n
  | push => exact hR.push n
  | skip => exact hR.signal n _
  | leave => exact hR.signal n _
  | stop => exact hR.signal n _
  | reply => exact hR.reply n
  | fail => exact hR.failWith n
  | scalar => exact hR.writeRows n _
  | assoc => exact hR.writeRows n _
  | query => exact hR.writeRows n _
  | user => exact hR.user n
  | require => exact hR.require n
  | header => exact hR.header n
  | write => exact hR.write n
  | log => exact hR.log n
  | format => exact hR.format n
  | compress => exact hR.compress n
  | cache => exact hR.cache n
  | notModified => exact hR.notModified n
  | block => exact hR.block hexec n
  | switch => exact hR.switch hexec n
  | loop => exact hR.loop hexec fuel n
  | traverse => exact hR.traverse hexec n
  | stackLoop => exact hR.stackLoop hexec fuel n
  | reader => exact hR.reader hexec n
  | evaluate => exact hR.evaluate hexec n
  | call => exact hR.call hexec n
  | marker => exact .pure _

theorem dispatch (fuel : Nat) (n : Node) : Alike R (Run.dispatch h fuel exec n) := by
  refine .bind hR.scope_alike fun c => .bind (hR.record_alike _) fun _ => ?_
  split
  · exact .fail _
  · exact hR.perform hexec fuel _ n

end Constructs

/-- Every node runs alike from twins, whatever is in it. -/
theorem execute_alike (fuel : Nat) (n : Node) : Alike R (execute h fuel n) := by
  induction fuel generalizing n with
  | zero => exact .throw Failure.outOfFuel
  | succ fuel ih =>
    intro s t hst
    obtain ⟨hresult, hend⟩ := hR.dispatch ih fuel n s t hst
    rw [execute, closing_apply, closing_apply, hresult]
    exact ⟨rfl, hR.record hend _⟩

theorem executeAll_alike (fuel : Nat) (nodes : List Node) : Alike R (executeAll h fuel nodes) :=
  .sequence (hR.execute_alike fuel) nodes

/-! ## Programs -/

theorem executeNodes_alike (fuel : Nat) (nodes : List Node) :
    Alike R (Run.executeNodes h fuel nodes) := by
  cases nodes with
  | nil => exact hR.executeAll_alike fuel []
  | cons first rest =>
    refine .bind hR.output_alike fun o => ?_
    split
    · refine .bind (hR.ask _) fun d => .bind (hR.consultCache d) fun flow => ?_
      cases flow with
      | next => exact hR.executeAll_alike fuel rest
      | _ => exact .pure _
    · exact hR.executeAll_alike fuel (first :: rest)

theorem executeProgram_alike (fuel : Nat) (id : String) :
    Alike R (executeProgram h fuel id) := by
  refine .bind (hR.load_alike id) fun loaded => ?_
  cases loaded with
  | error e => exact .fail e
  | ok p => exact .bind (hR.updateScope _) fun _ => hR.executeNodes_alike fuel p.nodes

end Twins

end ActionTree
