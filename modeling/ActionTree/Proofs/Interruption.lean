import ActionTree.Proofs.Leaf

/-!
# ActionTree.Proofs.Interruption

A stop, a reply and a fatal error end the run.

1. a result *interrupts* if no instruction around the node may take it for itself;
2. the journal shows that it was heeded: behind the node's end there are only ends
   of nodes further out, all with the same result, and ends of sub-programs.  No
   node begins there, no sub-program is opened, nothing is logged or queried;
3. the one exception is a call that keeps the reply of its program as a field.

Every run is put together from runs that heed interruptions, so what has to be
shown of a construct is that it passes an interruption on (`Passes`).  Only a call
does not, and only the reply of its own program; `call_heeds_or_keeps` says so.
-/

namespace ActionTree

open Run

/-! ## What is heeded -/

/-- A result that no instruction around a node may take for itself. -/
inductive Interrupts : Except Failure Flow → Prop where
  | stop : Interrupts (.ok .stop)
  | reply (r : Reply) : Interrupts (.ok (.reply r))
  | fatal {e : Error} (he : e.isFatal = true) : Interrupts (.error (.error e))

theorem Interrupts.flow {flow : Flow} (hi : Interrupts (.ok flow)) :
    flow = .stop ∨ ∃ r, flow = .reply r := by
  cases hi with
  | stop => exact .inl rfl
  | reply r => exact .inr ⟨r, rfl⟩

theorem not_interrupts_next : ¬ Interrupts (.ok .next) := by
  intro hi
  cases hi

/-- An event of leaving with a result what is open: nodes end with that very
result, and sub-programs are closed. -/
def Event.Leaves (result : Except Failure Flow) : Event → Prop
  | .ended _ r => r = result
  | .closed _ => True
  | _ => False

/-- Nothing was put down but that all that was open was left with a result. -/
def Unwinds (result : Except Failure Flow) (later : Journal) : Prop :=
  ∀ e ∈ later, e.Leaves result

theorem unwinds_nil (result : Except Failure Flow) : Unwinds result [] := by simp [Unwinds]

theorem unwinds_append {result : Except Failure Flow} {newer later : Journal}
    (hn : Unwinds result newer) (hl : Unwinds result later) : Unwinds result (newer ++ later) := by
  intro e he
  rcases List.mem_append.mp he with he | he
  · exact hn e he
  · exact hl e he

/-- A reply was kept by a call: of what was put down behind the node that replied,
the oldest part only leaves the program of the call, and the call itself then ends
with `next`.  `start` and `last` are the states that the call began and ended in:
its expanded `passControl` was false, and the reply is in the field of its `ref`. -/
inductive Kept (h : Host) (name : String) (reply : Reply) (later earlier : Journal) : Prop where
  | intro (fuel : Nat) (call : Node) (start last : State) (c : Context) (program : String)
      (rest mid : Journal)
      (isCall : h.registry.find? call.name = some .call)
      (run : execute h fuel call start = (.ok .next, last))
      (control : h.flagOr call "passControl" true start.scope = .ok false)
      (kept : last.scope = c.set ((call.name? "ref").getD "result") reply.toValue)
      (began : start.journal <:+ earlier)
      (ended : last.journal = .ended call.name (.ok .next) :: .closed program :: mid ++
        .ended name (.ok (.reply reply)) :: earlier)
      (unwound : Unwinds (.ok (.reply reply)) mid)
      (split : later = rest ++ .ended call.name (.ok .next) :: .closed program :: mid)

/-- What is put down afterwards does not change that a reply was kept. -/
theorem Kept.extend {h : Host} {name : String} {reply : Reply} {later earlier : Journal}
    (hk : Kept h name reply later earlier) (newer : Journal) :
    Kept h name reply (newer ++ later) earlier := by
  obtain ⟨fuel, call, start, last, c, program, rest, mid, isCall, run, control, kept, began, ended,
    unwound, split⟩ := hk
  refine .intro fuel call start last c program (newer ++ rest) mid isCall run control kept began
    ended unwound ?_
  rw [split, List.append_assoc]

/-- All interruptions between two journals were heeded by a run that came to `out`:
behind every node that was interrupted the journal only unwinds, and `out` is that
interruption; or it is a reply that was kept. -/
def Heeded (h : Host) (before : Journal) (out : Except Failure Flow) (after : Journal) : Prop :=
  ∃ new, after = new ++ before ∧ ∀ later name result earlier,
    new = later ++ .ended name result :: earlier → Interrupts result →
      (Unwinds result later ∧ out = result) ∨
        ∃ reply, result = .ok (.reply reply) ∧ Kept h name reply later (earlier ++ before)

/-- An event of one journal put on another is in the one or in the other. -/
theorem split_of_append {newer older later earlier : Journal} {e : Event}
    (h : newer ++ older = later ++ e :: earlier) :
    (∃ inner, newer = later ++ e :: inner ∧ earlier = inner ++ older) ∨
      ∃ inner, later = newer ++ inner ∧ older = inner ++ e :: earlier := by
  rcases List.append_eq_append_iff.mp h with hl | ⟨inner, hn, hrest⟩
  · exact .inr hl
  · cases inner with
    | nil => exact .inr ⟨[], by simpa using hn.symm, by simpa using hrest.symm⟩
    | cons e' inner =>
      obtain ⟨rfl, rfl⟩ := List.cons.inj hrest
      exact .inl ⟨inner, hn, rfl⟩

namespace Heeded

variable {h : Host} {before middle after : Journal} {out out' : Except Failure Flow}

/-- Without the end of a node there is nothing to heed. -/
theorem of_remarks (new : Journal) (hnew : ∀ e ∈ new, ∀ name result, e ≠ .ended name result) :
    Heeded h before out (new ++ before) := by
  refine ⟨new, rfl, fun later name result earlier hsplit _ => ?_⟩
  exact absurd rfl (hnew (.ended name result) (by simp [hsplit]) name result)

theorem refl : Heeded h before out before := of_remarks [] (by simp)

/-- One run after another.  The second has to pass on what interrupted the first. -/
theorem trans (hx : Heeded h before out middle) (hf : Heeded h middle out' after)
    (hpass : Interrupts out → ∃ new, after = new ++ middle ∧ Unwinds out new ∧ out' = out) :
    Heeded h before out' after := by
  obtain ⟨older, rfl, holder⟩ := hx
  obtain ⟨newer, rfl, hnewer⟩ := hf
  refine ⟨newer ++ older, by rw [List.append_assoc], fun later name result earlier hsplit hi => ?_⟩
  rcases split_of_append hsplit with ⟨inner, hn, rfl⟩ | ⟨inner, rfl, ho⟩
  · -- the node ended in the second run
    rcases hnewer later name result inner hn hi with hout | ⟨reply, hr, hk⟩
    · exact .inl hout
    · exact .inr ⟨reply, hr, by rwa [List.append_assoc]⟩
  · -- the node ended in the first run
    rcases holder inner name result earlier ho hi with ⟨hu, hout⟩ | ⟨reply, hr, hk⟩
    · obtain ⟨new, hnew, hunwinds, hout'⟩ := hpass (hout ▸ hi)
      rw [List.append_cancel_right hnew]
      exact .inl ⟨unwinds_append (hout ▸ hunwinds) hu, hout'.trans hout⟩
    · exact .inr ⟨reply, hr, hk.extend newer⟩

/-- The end of a node, put down with its result. -/
theorem ended (hx : Heeded h before out after) (name : String) :
    Heeded h before out (.ended name out :: after) := by
  have hlast : Heeded h after out (.ended name out :: after) := by
    refine ⟨[.ended name out], rfl, fun later name' result earlier hsplit _ => ?_⟩
    cases later with
    | nil =>
      obtain ⟨he, -⟩ := List.cons.inj hsplit
      obtain ⟨-, rfl⟩ := Event.ended.inj he
      exact .inl ⟨unwinds_nil _, rfl⟩
    | cons e later =>
      have hlen := congrArg List.length hsplit
      simp at hlen
  refine hx.trans hlast fun _ => ⟨[.ended name out], rfl, ?_, rfl⟩
  simp [Unwinds, Event.Leaves]

/-- A call that kept the reply of its program, with its end put down. -/
theorem keeping {fuel : Nat} {call : Node} {start last : State} {reply : Reply}
    {c : Context} {program : String} {older : Journal}
    (isCall : h.registry.find? call.name = some .call)
    (run : execute h fuel call start = (.ok .next, last))
    (control : h.flagOr call "passControl" true start.scope = .ok false)
    (kept : last.scope = c.set ((call.name? "ref").getD "result") reply.toValue)
    (ended : last.journal = .ended call.name (.ok .next) :: .closed program :: older)
    (hx : Heeded h start.journal (.ok (.reply reply)) (.closed program :: older)) :
    Heeded h start.journal (.ok .next) last.journal := by
  obtain ⟨new, hnew, hheeds⟩ := hx
  refine ⟨.ended call.name (.ok .next) :: new, by rw [ended, hnew]; rfl, ?_⟩
  intro later name result earlier hsplit hi
  cases later with
  | nil =>
    obtain ⟨he, -⟩ := List.cons.inj hsplit
    obtain ⟨-, rfl⟩ := Event.ended.inj he
    exact absurd hi not_interrupts_next
  | cons e later =>
    obtain rfl : .ended call.name (.ok .next) = e := (List.cons.inj hsplit).1
    have hlater : new = later ++ .ended name result :: earlier := (List.cons.inj hsplit).2
    rcases hheeds later name result earlier hlater hi with ⟨hu, hout⟩ | ⟨deeper, hr, hk⟩
    · rw [hlater, List.append_assoc] at hnew
      cases later with
      | nil => cases (List.cons.inj hnew).1
      | cons closed mid =>
        -- the program was closed last, so the call's own part of `later` begins with that
        obtain rfl : .closed program = closed := (List.cons.inj hnew).1
        have hmid : older = mid ++ .ended name result :: (earlier ++ start.journal) :=
          (List.cons.inj hnew).2
        refine .inr ⟨reply, hout.symm, ?_⟩
        refine .intro fuel call start last c program [] mid isCall run control kept ?_ ?_ ?_ rfl
        · exact List.suffix_append _ _
        · rw [ended, hmid, ← hout]
          rfl
        · intro e he
          exact hout ▸ hu e (List.mem_cons_of_mem _ he)
    · exact .inr ⟨deeper, hr, hk.extend [.ended call.name (.ok .next)]⟩

end Heeded

/-! ## Runs -/

namespace Run

variable {α β : Type}

/-- A run heeds interruptions, wherever it begins.  `view` says what a value of it
has come to. -/
def Heeds (h : Host) (view : α → Except Failure Flow) (x : Run α) : Prop :=
  ∀ s, Heeded h s.journal ((x s).1.bind view) (x s).2.journal

/-- A run does nothing but come to a result. -/
def Passes (view : α → Except Failure Flow) (result : Except Failure Flow) (x : Run α) : Prop :=
  ∀ s, (x s).1.bind view = result ∧ (x s).2.journal = s.journal

/-- A flow is what it has come to. -/
theorem bind_ok (r : Except Failure Flow) : r.bind .ok = r := by
  cases r <;> rfl

theorem passes_pure (view : α → Except Failure Flow) (a : α) :
    Passes view (view a) (pure a : Run α) := fun _ => ⟨rfl, rfl⟩

theorem passes_release (r : Except Failure Flow) : Passes .ok r (release r) := by
  intro s
  rw [release_apply]
  cases r <;> exact ⟨rfl, rfl⟩

theorem passes_updateScope_bind {view : β → Except Failure Flow} {result : Except Failure Flow}
    {g : Context → Context} {f : Unit → Run β} (hf : Passes view result (f ())) :
    Passes view result (updateScope g >>= f) := fun s => hf { s with scope := g s.scope }

namespace Heeds

variable {h : Host} {view : α → Except Failure Flow}

/-- A run that puts down remarks only executes no nodes. -/
theorem of_remarks {x : Run α} (hx : Keeps Remarks x) (view : α → Except Failure Flow) :
    Heeds h view x := by
  intro s
  obtain ⟨new, hnew, hremark⟩ := hx s
  rw [hnew]
  refine Heeded.of_remarks _ fun e he name result hended => ?_
  have hr := hremark e he
  rw [hended] at hr
  contradiction

theorem pure (a : α) : Heeds h view (Pure.pure a : Run α) := fun _ => Heeded.refl

theorem throw (e : Failure) : Heeds h view (MonadExcept.throw e : Run α) := fun _ => Heeded.refl

theorem fail (e : Error) : Heeds h view (Run.fail e : Run α) := throw (.error e)

theorem release (r : Except Failure Flow) : Heeds h .ok (Run.release r) := by
  cases r with
  | ok flow => exact pure flow
  | error e => exact throw e

/-- One run after another: what interrupts the first, the second has to pass on. -/
theorem bind {view' : β → Except Failure Flow} {x : Run α} {f : α → Run β}
    (hx : Heeds h view x) (hf : ∀ a, Heeds h view' (f a))
    (hpass : ∀ a, Interrupts (view a) → Passes view' (view a) (f a)) :
    Heeds h view' (x >>= f) := by
  intro s
  have hs := hx s
  rw [bind_apply]
  rcases hr : x s with ⟨e | a, t⟩
  · rw [hr] at hs
    exact hs
  · rw [hr] at hs
    refine hs.trans (hf a t) fun hi => ?_
    obtain ⟨hout, hjournal⟩ := hpass a hi t
    exact ⟨[], hjournal, unwinds_nil _, hout⟩

/-- What an instruction does of its own before it executes nodes. -/
theorem remarks_bind {view' : β → Except Failure Flow} {x : Run α} {f : α → Run β}
    (hx : Keeps Remarks x) (hf : ∀ a, Heeds h view' (f a)) : Heeds h view' (x >>= f) :=
  bind (of_remarks hx fun _ => .ok .next) hf fun _ hi => absurd hi not_interrupts_next

theorem ask_bind {view' : β → Except Failure Flow} {question : Context → Except Error α}
    {f : α → Run β} (hf : ∀ a, Heeds h view' (f a)) : Heeds h view' (ask question >>= f) :=
  remarks_bind (.ask question) hf

theorem updateScope_bind {view' : β → Except Failure Flow} {g : Context → Context}
    {f : Unit → Run β} (hf : Heeds h view' (f ())) : Heeds h view' (updateScope g >>= f) :=
  remarks_bind (fun _ => remarks_of_eq rfl) fun _ => hf

theorem attempt {x : Run α} (hx : Heeds h view x) :
    Heeds h (fun r => r.bind view) (Run.attempt x) := fun s => hx s

theorem restoring {body : Snapshot → Run α} (hb : ∀ saved, Heeds h view (body saved)) :
    Heeds h view (Run.restoring body) := fun s => hb s.scope.save s

theorem sequence {exec : Node → Run Flow} (hexec : ∀ n, Heeds h .ok (exec n))
    (nodes : List Node) : Heeds h .ok (Run.sequence exec nodes) := by
  induction nodes with
  | nil => exact pure Flow.next
  | cons n ns ih =>
    refine bind (hexec n) (fun flow => ?_) fun flow hi => ?_
    · cases flow with
      | next => exact ih
      | _ => exact pure _
    · rcases hi.flow with rfl | ⟨r, rfl⟩
      · exact passes_pure .ok Flow.stop
      · exact passes_pure .ok (Flow.reply r)

/-! ### Rounds -/

/-- What a round has come to. -/
def ofRound (last : Option Flow) : Except Failure Flow := .ok (last.getD .next)

theorem bodyRound {exec : Node → Run Flow} (hexec : ∀ n, Heeds h .ok (exec n)) (n : Node) :
    Heeds h ofRound (Run.bodyRound exec n) := by
  refine bind (sequence hexec n.children) (fun flow => pure flow.ofRound) fun flow hi => ?_
  rcases hi.flow with rfl | ⟨r, rfl⟩
  · exact passes_pure ofRound (some Flow.stop)
  · exact passes_pure ofRound (some (Flow.reply r))

/-- A round that is the last ends the loop with its own flow. -/
theorem roundThen {round : Run (Option Flow)} {rest : Run Flow} (hround : Heeds h ofRound round)
    (hrest : Heeds h .ok rest) : Heeds h .ok (roundThen round rest) := by
  refine bind hround (fun last => ?_) fun last hi => ?_
  · cases last with
    | none => exact hrest
    | some flow => exact pure flow
  · cases last with
    | none => exact absurd hi not_interrupts_next
    | some flow => exact passes_pure .ok flow

theorem roundsAlong {p : Progression} {round : Int → Nat → Run (Option Flow)}
    (hround : ∀ counter position, Heeds h ofRound (round counter position)) (counter : Int)
    (position : Nat) : Heeds h .ok (Run.roundsAlong p round counter position) :=
  roundsAlong_induct (pure Flow.next)
    (fun counter position _ => roundThen (hround counter position)) counter position

theorem roundsWithin {round : Nat → Run (Option Flow)}
    (hround : ∀ position, Heeds h ofRound (round position)) (fuel position : Nat) :
    Heeds h .ok (Run.roundsWithin round fuel position) :=
  roundsWithin_induct (throw Failure.outOfFuel) (fun position _ => roundThen (hround position))
    fuel position

theorem roundsOver {round : Nat → α → Run (Option Flow)} {atEnd : Run Flow}
    (hround : ∀ position a, Heeds h ofRound (round position a)) (hend : Heeds h .ok atEnd)
    (items : List α) (position : Nat) :
    Heeds h .ok (Run.roundsOver round atEnd items position) :=
  roundsOver_induct hend (fun position a _ => roundThen (hround position a)) items position

/-- The visits of a traversal come to what the last of them came to. -/
theorem visit {round : Nat → Value → Run (Flow × Value)}
    (hround : ∀ position v, Heeds h (fun p => .ok p.1) (round position v))
    (items : List (Nat × Value)) : Heeds h Prod.fst (Run.visit round items) := by
  induction items with
  | nil => exact pure _
  | cons item rest ih =>
    obtain ⟨position, v⟩ := item
    refine bind (attempt (hround position v)) (fun result => ?_) fun result hi => ?_
    · rcases result with failure | ⟨flow, w⟩
      · exact pure _
      · dsimp only
        cases flow.ofRound with
        | some last => exact pure _
        | none => exact bind ih (fun _ => pure _) fun _ _ => passes_pure Prod.fst _
    · rcases result with failure | ⟨flow, w⟩
      · exact passes_pure Prod.fst (Except.error failure, (position, v) :: rest)
      · rcases hi.flow with hflow | ⟨r, hflow⟩
        · cases hflow
          exact passes_pure Prod.fst (Except.ok Flow.stop, (position, w) :: rest)
        · cases hflow
          exact passes_pure Prod.fst (Except.ok (Flow.reply r), (position, w) :: rest)

end Heeds

/-! ## Blocks, switches and loops -/

section Constructs

variable {h : Host} {exec : Node → Run Flow} (hexec : ∀ n, Heeds h .ok (exec n))

include hexec

/-- A block recovers from errors that are not fatal, and from nothing else. -/
theorem block_heeds (n : Node) : Heeds h .ok (block h exec n) := by
  refine .ask_bind fun entered => ?_
  cases entered with
  | false => exact .pure _
  | true =>
    refine .bind (.attempt (.sequence hexec n.children)) (fun result => ?_) fun result hi => ?_
    · rcases result with (e | _) | flow
      · dsimp only
        split
        · exact .fail e
        · exact .of_remarks ((recover_local h n e).mono Local.journal) _
      · exact .throw _
      · exact .pure flow
    · rcases result with (e | _) | flow
      · cases hi with
        | fatal he =>
          simp only [he, if_true]
          exact fun _ => ⟨rfl, rfl⟩
      · cases hi
      · exact passes_pure .ok flow

theorem switch_heeds (n : Node) : Heeds h .ok (switch h exec n) := by
  refine .ask_bind fun subject => .ask_bind fun branch => ?_
  cases branch with
  | some branch => exact .sequence hexec branch.children
  | none => exact .pure _

theorem loop_heeds (fuel : Nat) (n : Node) : Heeds h .ok (loop h fuel exec n) := by
  unfold loop
  split
  · refine .ask_bind fun p => .restoring fun _ => .roundsAlong (fun counter position => ?_) _ _
    exact .updateScope_bind (.bodyRound hexec n)
  · split
    · refine .restoring fun _ => .roundsWithin (fun position => ?_) _ _
      refine .ask_bind fun holds => ?_
      cases holds with
      | true => exact .updateScope_bind (.bodyRound hexec n)
      | false => exact .pure _
    · exact .fail _

theorem visitRound_heeds (n : Node) (updates : List String) (saved : Snapshot) (position : Nat)
    (element : Value) :
    Heeds h (fun p => .ok p.1) (visitRound exec n updates saved position element) := by
  refine .updateScope_bind (.bind (.sequence hexec n.children) (fun flow => ?_) fun flow _ => ?_)
  · exact .remarks_bind .scope fun c => .pure _
  · exact fun _ => ⟨rfl, rfl⟩

theorem traverse_heeds (n : Node) : Heeds h .ok (traverse h exec n) := by
  refine .ask_bind fun t => .bind (.restoring fun saved => .visit (fun position v => ?_) t.visits)
    (fun visited => ?_) fun visited _ => ?_
  · exact visitRound_heeds hexec n t.updates saved position v
  · dsimp only
    split
    · exact .release visited.1
    · exact .updateScope_bind (.release visited.1)
  · dsimp only
    split
    · exact passes_release visited.1
    · exact passes_updateScope_bind (passes_release visited.1)

theorem stackLoop_heeds (fuel : Nat) (n : Node) : Heeds h .ok (stackLoop h fuel exec n) := by
  refine .ask_bind fun source => ?_
  split
  · exact .fail _
  · refine .restoring fun saved => .roundsWithin (fun position => ?_) _ _
    refine .remarks_bind ((pop_local source).mono Local.journal) fun element => ?_
    cases element with
    | none => exact .pure _
    | some element => exact .updateScope_bind (.bodyRound hexec n)

theorem reader_heeds (n : Node) : Heeds h .ok (reader h exec n) := by
  refine .ask_bind fun statement =>
    .remarks_bind ((consult_local h _).mono Local.journal) fun cursor =>
      .restoring fun saved => .roundsOver (fun position row => ?_) ?_ _ _
  · exact .updateScope_bind (.bodyRound hexec n)
  · exact .of_remarks ((endOfRows_local cursor).mono Local.journal) _

omit hexec in
theorem record_bind {β : Type} {view : β → Except Failure Flow} {e : Event} {f : Unit → Run β}
    (he : ∀ name result, e ≠ .ended name result) (hf : Heeds h view (f ())) :
    Heeds h view (record e >>= f) := by
  have hrecord : Heeds h (fun _ => .ok .next) (record e) := fun s =>
    Heeded.of_remarks [e] (by simpa using he)
  exact .bind hrecord (fun _ => hf) fun _ hi => absurd hi not_interrupts_next

omit hexec in
theorem consultCache_heeds (d : Directive) : Heeds h .ok (consultCache h d) := by
  have hset : ∀ f : Settings → Settings, Keeps Remarks (updateOutput f) :=
    fun _ _ => remarks_of_eq rfl
  unfold consultCache
  split
  · exact record_bind (by simp) (.remarks_bind (hset _) fun _ => .pure _)
  · exact .remarks_bind (hset _) fun _ => .pure _

omit hexec in
theorem cache_heeds (n : Node) : Heeds h .ok (cache h n) := by
  refine .remarks_bind .output fun o => ?_
  split
  · exact .pure _
  · exact .ask_bind fun d => consultCache_heeds d

/-- A sub-program heeds what interrupts its nodes: closing it is a part of leaving. -/
theorem inside_heeds (p : Program) (c : Context) (after : Context → Context) :
    Heeds h .ok (inside exec p c after) := by
  refine .remarks_bind (fun _ => remarks_of_eq rfl) fun _ => record_bind (by simp) fun s => ?_
  have hs := Heeds.sequence hexec p.nodes s
  refine hs.trans (Heeded.of_remarks [.closed p.id] (by simp)) fun _ => ?_
  exact ⟨[.closed p.id], rfl, by simp [Unwinds, Event.Leaves], rfl⟩

theorem runShared_heeds (p : Program) : Heeds h .ok (runShared h exec p) := by
  refine .remarks_bind .scope fun c => ?_
  split
  · exact .fail _
  · exact inside_heeds hexec p _ _

theorem runIsolated_heeds (n : Node) (p : Program) : Heeds h .ok (runIsolated h exec n p) := by
  refine .ask_bind fun parameters => .remarks_bind .scope fun caller => ?_
  split
  · exact .fail _
  · exact inside_heeds hexec p _ _

theorem evaluate_heeds (n : Node) : Heeds h .ok (evaluate h exec n) := by
  refine .remarks_bind ((target_loads h n).mono Loads.remarks) fun result => ?_
  cases result with
  | ok p => exact runShared_heeds hexec p
  | error flow => exact .pure _

/-! ## Calls -/

theorem callee_heeds (n : Node) (p : Program) (shared : Bool) :
    Heeds h .ok (callee h exec n p shared) := by
  cases shared with
  | true => exact runShared_heeds hexec p
  | false => exact runIsolated_heeds hexec n p

omit hexec in
/-- A program that came to a flow was opened, and has been closed. -/
theorem callee_closed {n : Node} {p : Program} {shared : Bool} {flow : Flow} {s t : State}
    (hr : callee h exec n p shared s = (.ok flow, t)) :
    ∃ older, t.journal = .closed p.id :: older := by
  cases shared with
  | true =>
    rw [callee, if_pos rfl, runShared_apply] at hr
    cases hc : s.scope.enter? h.config.maxCallDepth with
    | none =>
      simp only [hc] at hr
      cases hr
    | some inner =>
      simp only [hc, inside_apply] at hr
      obtain ⟨-, rfl⟩ := Prod.mk.inj hr
      exact ⟨_, rfl⟩
  | false =>
    rw [callee, if_neg Bool.false_ne_true, runIsolated_apply] at hr
    cases hp : h.parameters n s.scope with
    | error e =>
      simp only [hp] at hr
      cases hr
    | ok parameters =>
      cases hc : (s.scope.child parameters p.id).enter? h.config.maxCallDepth with
      | none =>
        simp only [hp, hc] at hr
        cases hr
      | some child =>
        simp only [hp, hc, inside_apply] at hr
        obtain ⟨-, rfl⟩ := Prod.mk.inj hr
        exact ⟨_, rfl⟩

/-- A call heeds what interrupts its program; or it keeps the reply that its
program ends with, and goes on. -/
theorem call_heeds_or_keeps (n : Node) (s : State) :
    Heeded h s.journal (call h exec n s).1 (call h exec n s).2.journal ∨
      ∃ (reply : Reply) (c : Context) (program : String) (older : Journal),
        (call h exec n s).1 = .ok .next ∧
        h.flagOr n "passControl" true s.scope = .ok false ∧
        (call h exec n s).2.scope = c.set ((n.name? "ref").getD "result") reply.toValue ∧
        (call h exec n s).2.journal = .closed program :: older ∧
        Heeded h s.journal (.ok (.reply reply)) (.closed program :: older) := by
  have htarget := target_loads h n s
  rw [call_apply]
  rcases ht : target h n s with ⟨e | flow | p, t⟩
  all_goals
    rw [ht] at htarget
    obtain ⟨programs, rfl⟩ := htarget
  · exact .inl .refl
  · exact .inl .refl
  · dsimp only
    cases hc : h.flagOr n "passControl" true s.scope with
    | error e => exact .inl .refl
    | ok control =>
      cases hs : h.flag n "shared" s.scope with
      | error e => exact .inl .refl
      | ok shared =>
        dsimp only
        have hheeds := callee_heeds hexec n p shared { s with programs := programs }
        rw [bind_apply]
        rcases hr : callee h exec n p shared { s with programs := programs } with ⟨e | flow, u⟩
        · rw [hr] at hheeds
          exact .inl hheeds
        · rw [hr] at hheeds
          cases flow with
          | next | stop => exact .inl hheeds
          | skip | leave => exact .inl (hheeds.trans .refl fun hi => nomatch hi)
          | reply reply =>
            cases control with
            | true => exact .inl hheeds
            | false =>
              obtain ⟨older, holder⟩ := callee_closed hr
              refine .inr ⟨reply, u.scope, p.id, older, rfl, rfl, rfl, holder, ?_⟩
              rwa [← holder]

/-- An instruction other than a call heeds what interrupts the nodes in it. -/
theorem perform_heeds {i : Instruction} (hi : i ≠ .call) (fuel : Nat) (n : Node) :
    Heeds h .ok (perform h fuel exec i n) := by
  cases i with
  | block => exact block_heeds hexec n
  | switch => exact switch_heeds hexec n
  | loop => exact loop_heeds hexec fuel n
  | traverse => exact traverse_heeds hexec n
  | stackLoop => exact stackLoop_heeds hexec fuel n
  | reader => exact reader_heeds hexec n
  | evaluate => exact evaluate_heeds hexec n
  | call => exact absurd rfl hi
  | cache => exact cache_heeds n
  | _ => exact .of_remarks ((perform_local h n rfl).mono Local.journal) _

end Constructs

/-! ## Whole runs -/

/-- Every node heeds what interrupts the nodes in it, however deep these are. -/
theorem execute_heeds (h : Host) (fuel : Nat) (n : Node) : Heeds h .ok (execute h fuel n) := by
  induction fuel generalizing n with
  | zero => exact .throw Failure.outOfFuel
  | succ fuel ih =>
    intro s
    have hbegan (out : Except Failure Flow) : Heeded h s.journal out (beginning n s).journal :=
      Heeded.of_remarks [.began n.name s.scope.depth] (by simp)
    rw [bind_ok]
    cases hi : h.registry.find? n.name with
    | none =>
      rw [execute_unknown hi]
      exact (hbegan _).ended n.name
    | some i =>
      rw [execute_known hi]
      by_cases hcall : i = .call
      · subst hcall
        rcases call_heeds_or_keeps ih n (beginning n s) with
          hheeds | ⟨reply, c, program, older, hout, control, kept, hjournal, hheeds⟩
        · exact ((hbegan (.ok .next)).trans hheeds fun hi => absurd hi not_interrupts_next).ended _
        · have hrun := execute_known hi fuel s
          rcases hc : call h (execute h fuel) n (beginning n s) with ⟨result, t⟩
          simp only [hc] at hout kept hjournal
          simp only [perform, hc] at hrun ⊢
          subst hout
          exact Heeded.keeping hi hrun control kept (by rw [hjournal])
            ((hbegan (.ok .next)).trans hheeds fun hi => absurd hi not_interrupts_next)
      · have hheeds := perform_heeds ih hcall fuel n (beginning n s)
        rw [bind_ok] at hheeds
        exact ((hbegan (.ok .next)).trans hheeds fun hi => absurd hi not_interrupts_next).ended _

/-- **Interruptions end the run.**  Behind the end of a node with a stop, a reply or
a fatal error, all that is open is left with that very result, and the run comes to
it; unless it is the reply of a program whose call keeps it as a field. -/
theorem interruption_ends_run (h : Host) (fuel : Nat) (nodes : List Node) (s : State)
    {later earlier : Journal} {name : String} {result : Except Failure Flow}
    (hjournal : (executeAll h fuel nodes s).2.journal = later ++ .ended name result :: earlier)
    (hnew : s.journal <:+ earlier) (hi : Interrupts result) :
    (Unwinds result later ∧ (executeAll h fuel nodes s).1 = result) ∨
      ∃ reply, result = .ok (.reply reply) ∧ Kept h name reply later earlier := by
  obtain ⟨new, hafter, hheeds⟩ := Heeds.sequence (execute_heeds h fuel) nodes s
  obtain ⟨older, rfl⟩ := hnew
  rw [bind_ok] at hheeds
  have hsplit : new ++ s.journal = (later ++ .ended name result :: older) ++ s.journal := by
    rw [← hafter, List.append_assoc]
    exact hjournal
  exact hheeds later name result older (List.append_cancel_right hsplit) hi

/-- A program that stops. -/
def haltProgram : List Node := [{ name := "stop" }]

/-- A host with one program, which stops. -/
def haltHost : Host := Host.ofLibrary (Library.insert {} "halt" haltProgram)

/-- A block that lets no error out, around a call that lets no reply out. -/
def haltNodes : List Node :=
  [{ name := "block", attributes := [("inhibit", "1")],
     children :=
      [{ name := "call", attributes := [("src", "halt"), ("passControl", "0")] },
       { name := "log" }] },
   { name := "log" }]

theorem haltNodes_journal :
    (executeAll haltHost 9 haltNodes (State.ofScope {})).2.journal =
      [.ended "block" (.ok .stop), .ended "call" (.ok .stop), .closed "halt"] ++
        .ended "stop" (.ok .stop) ::
          [.began "stop" 1, .opened "halt", .began "call" 0, .began "block" 0] := by
  cbv

theorem interruption_ends_run_haltNodes :
    let run := executeAll haltHost 9 haltNodes (State.ofScope {})
    let result : Except Failure Flow := .ok .stop
    let later : Journal := [.ended "block" result, .ended "call" result, .closed "halt"]
    let earlier : Journal := [.began "stop" 1, .opened "halt", .began "call" 0, .began "block" 0]
    run.2.journal = later ++ .ended "stop" result :: earlier ∧
      (State.ofScope {}).journal <:+ earlier ∧ Interrupts result ∧
      ((Unwinds result later ∧ run.1 = result) ∨
        ∃ reply, result = .ok (.reply reply) ∧ Kept haltHost "stop" reply later earlier) :=
  ⟨haltNodes_journal, List.nil_suffix, .stop,
    interruption_ends_run haltHost 9 haltNodes _ haltNodes_journal List.nil_suffix .stop⟩

end Run

end ActionTree
