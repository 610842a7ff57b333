import ActionTree.Proofs.Interruption
import ActionTree.Proofs.Invariant
import ActionTree.Proofs.Isolation

/-!
# ActionTree.Proofs.Nesting

As many sub-programs are open as the limit permits, and no more.

1. the journal says which sub-programs are open at any time (`Journal.running`), and it is
   *nested* if sub-programs are left in the order opposite to the one they were entered in,
   none is entered at the limit, and every node tells how many are open when it begins;
2. every run keeps this, and leaves as many open as it found (`tracked_invariant`,
   `execute_tracked`), however the nodes in it end;
3. a sub-program that is found is run if there is room for it, and if there is none it is
   not entered, and the node ends with the error that says so (`perform_enters`,
   `perform_refuses`);
4. that error ends the request with status 500 (`executeProgram_heeds`).
-/

namespace ActionTree

open Run

/-! ## Journals -/

namespace Journal

/-- The sub-programs that are open, the innermost first. -/
def running : Journal → List String
  | [] => []
  | .opened program :: j => program :: running j
  | .closed _ :: j => (running j).tail
  | _ :: j => running j

end Journal

/-- What an event says about the sub-programs that are open: of a node that begins, how many
they are; of one that is entered, that there is room for it; of one that is left, that it is
the innermost. -/
def Event.Fits (limit : Nat) (active : List String) : Event → Prop
  | .began _ depth => depth = active.length ∧ depth ≤ limit
  | .opened _ => active.length < limit
  | .closed program => active.head? = some program
  | _ => True

namespace Journal

/-- Every event fits the sub-programs that were open when it was put down. -/
def Nested (limit : Nat) (j : Journal) : Prop :=
  ∀ later e earlier, j = later ++ e :: earlier → e.Fits limit (running earlier)

variable {limit : Nat} {j : Journal}

theorem nested_nil : Nested limit [] := by
  intro later e earlier hsplit
  simp at hsplit

theorem nested_cons {e : Event} :
    Nested limit (e :: j) ↔ e.Fits limit (running j) ∧ j.Nested limit := by
  constructor
  · intro h
    refine ⟨h [] e j rfl, fun later e' earlier hsplit => ?_⟩
    exact h (e :: later) e' earlier (by rw [hsplit]; rfl)
  · rintro ⟨hfits, hnested⟩ later e' earlier hsplit
    cases later with
    | nil =>
      obtain ⟨rfl, rfl⟩ := List.cons.inj hsplit
      exact hfits
    | cons e'' later => exact hnested later e' earlier (List.cons.inj hsplit).2

/-- At no time more sub-programs are open than the limit permits. -/
theorem Nested.length_running_le (hj : j.Nested limit) : (running j).length ≤ limit := by
  induction j with
  | nil => exact Nat.zero_le limit
  | cons e j ih =>
    obtain ⟨hfits, hnested⟩ := nested_cons.mp hj
    have hle := ih hnested
    cases e with
    | opened program =>
      have hroom : (running j).length < limit := hfits
      simp only [running, List.length_cons]
      omega
    | closed program =>
      simp only [running, List.length_tail]
      omega
    | _ => exact hle

/-- What stands before an event was nested, too. -/
theorem Nested.earlier {newer : Journal} (hj : Nested limit (newer ++ j)) : j.Nested limit := by
  intro later e earlier hsplit
  exact hj (newer ++ later) e earlier (by rw [hsplit, List.append_assoc])

/-- Remarks tell of no sub-program. -/
theorem running_remarks {new : Journal} (hnew : ∀ e ∈ new, e.isRemark = true) :
    running (new ++ j) = running j ∧ (j.Nested limit → Nested limit (new ++ j)) := by
  induction new with
  | nil => exact ⟨rfl, id⟩
  | cons e new ih =>
    obtain ⟨hrunning, hnested⟩ := ih fun e' he' => hnew e' (List.mem_cons_of_mem e he')
    have hremark := hnew e List.mem_cons_self
    rw [List.cons_append, nested_cons]
    cases e with
    | logged severity message program => exact ⟨hrunning, fun hj => ⟨trivial, hnested hj⟩⟩
    | queried statement => exact ⟨hrunning, fun hj => ⟨trivial, hnested hj⟩⟩
    | _ => contradiction

end Journal

/-! ## Runs -/

/-- The journal is nested, given sub-programs are open, and the scope says how many. -/
structure Tracked (limit : Nat) (active : List String) (s : State) : Prop where
  running : s.journal.running = active
  depth : s.scope.depth = active.length
  bound : active.length ≤ limit
  nested : s.journal.Nested limit

namespace Run

variable {h : Host}

/-- What one step keeps: a sub-program that is entered is the innermost from then on, and the
innermost one is left. -/
theorem tracked_invariant (h : Host) :
    Invariant h (fun _ => True) (Tracked h.config.maxCallDepth) fun active id => id :: active where
  mild _ := trivial
  leaf {active s t} hl hs := by
    obtain ⟨new, hnew, hremark⟩ := hl.journal
    have hrunning : Journal.running (new ++ s.journal) = s.journal.running ∧
        (s.journal.Nested h.config.maxCallDepth →
          Journal.Nested h.config.maxCallDepth (new ++ s.journal)) :=
      Journal.running_remarks hremark
    rw [← hnew] at hrunning
    exact ⟨hrunning.1.trans hs.running, hl.scope.depth.trans hs.depth, hs.bound,
      hrunning.2 hs.nested⟩
  place hs _ _ := ⟨hs.running, hs.depth, hs.bound, hs.nested⟩
  based hs _ := ⟨hs.running, hs.depth, hs.bound, hs.nested⟩
  load hs _ := ⟨hs.running, hs.depth, hs.bound, hs.nested⟩
  unread _ _ := trivial
  tooDeep _ _ := trivial
  began {active s} hs name := by
    have hfits : s.scope.depth = s.journal.running.length ∧
        s.scope.depth ≤ h.config.maxCallDepth := by
      rw [hs.running, hs.depth]
      exact ⟨rfl, hs.bound⟩
    exact ⟨hs.running, hs.depth, hs.bound, Journal.nested_cons.mpr ⟨hfits, hs.nested⟩⟩
  ended hs _ _ :=
    ⟨hs.running, hs.depth, hs.bound, Journal.nested_cons.mpr ⟨trivial, hs.nested⟩⟩
  opened {active s} hs hroom c hc id := by
    have hlength : s.journal.running.length < h.config.maxCallDepth := by
      rw [hs.running, ← hs.depth]
      exact hroom
    have hdepth : c.depth = (id :: active).length := by
      rw [hc, hs.depth, List.length_cons]
    have hbound : (id :: active).length ≤ h.config.maxCallDepth := by
      rw [List.length_cons, ← hs.depth]
      exact hroom
    exact ⟨congrArg (id :: ·) hs.running, hdepth, hbound,
      Journal.nested_cons.mpr ⟨hlength, hs.nested⟩⟩
  closed {active s t id} hs ht c hc := by
    have hrunning : t.journal.running.tail = active := by rw [ht.running, List.tail_cons]
    have hhead : t.journal.running.head? = some id := by rw [ht.running, List.head?_cons]
    have hdepth : c.depth = active.length := by
      have hs' := hs.depth
      have ht' := ht.depth
      rw [List.length_cons] at ht'
      omega
    exact ⟨hrunning, hdepth, hs.bound, Journal.nested_cons.mpr ⟨hhead, ht.nested⟩⟩

theorem tracked_consult (h : Host) : ConsultSettles h (⊤ : Filter Unit) (fun _ => True)
    (Tracked h.config.maxCallDepth) fun _ => h.stored :=
  consultSettles_of_stable (fun hs _ => ⟨hs.running, hs.depth, hs.bound, hs.nested⟩) fun hs _ =>
    ⟨hs.running, hs.depth, hs.bound, Journal.nested_cons.mpr ⟨trivial, hs.nested⟩⟩

/-- A node leaves as many sub-programs open as it found. -/
theorem execute_tracked (fuel : Nat) (n : Node) {active : List String} {s : State}
    (hs : Tracked h.config.maxCallDepth active s) :
    Tracked h.config.maxCallDepth active (execute h fuel n s).2 :=
  ((execute_settles (tracked_invariant h) (tracked_consult h) fuel active n).run hs).2

theorem executeAll_tracked (fuel : Nat) (nodes : List Node) {active : List String} {s : State}
    (hs : Tracked h.config.maxCallDepth active s) :
    Tracked h.config.maxCallDepth active (executeAll h fuel nodes s).2 := by
  have hall : Settles ⊤ (Tracked h.config.maxCallDepth active) (Allows fun _ => True)
      fun _ : Unit => executeAll h fuel nodes :=
    .sequence fun n _ =>
      execute_settles (tracked_invariant h) (tracked_consult h) fuel active n
  exact (hall.run hs).2

theorem executeProgram_tracked (fuel : Nat) (id : String) {active : List String} {s : State}
    (hs : Tracked h.config.maxCallDepth active s) :
    Tracked h.config.maxCallDepth active (executeProgram h fuel id s).2 :=
  ((executeProgram_settles (tracked_invariant h) (tracked_consult h) fuel active id).run hs).2

end Run

/-! ## Entering -/

/-- The scope that a sub-program begins in if there is room for it: the flags and the
parameters of a call are asked for first. -/
def Host.entry (h : Host) (i : Instruction) (n : Node) (p : Program) (c : Context) :
    Except Error Context :=
  let here : Context := { c with depth := c.depth + 1, base := some p.id }
  match i with
  | .call =>
    match h.flagOr n "passControl" true c with
    | .error e => .error e
    | .ok _ =>
      match h.flag n "shared" c with
      | .error e => .error e
      | .ok true => .ok here
      | .ok false => (h.parameters n c).map fun parameters =>
          { c.child parameters p.id with depth := c.depth + 1 }
  | _ => .ok here

/-- The nodes of a sub-program, begun in its scope. -/
def State.entered (s : State) (p : Program) (c : Context) : State :=
  { s with scope := c, journal := .opened p.id :: s.journal }

namespace Run

/-- How a node leaves the sub-program that it entered: with its failure, if it failed, and
with its end put down. -/
structure Leaves (p : Program) (body out : Except Failure Flow × State) : Prop where
  journal : out.2.journal = .closed p.id :: body.2.journal
  failure : ∀ failure, body.1 = .error failure → out.1 = .error failure

variable {h : Host} {exec : Node → Run Flow} {n : Node} {p : Program} {c : Context}

theorem runShared_enters {s : State} (hroom : s.scope.depth < h.config.maxCallDepth) :
    Leaves p (sequence exec p.nodes (s.entered p
        { s.scope with depth := s.scope.depth + 1, base := some p.id }))
      (runShared h exec p s) := by
  have henter : s.scope.enter? h.config.maxCallDepth =
      some { s.scope with depth := s.scope.depth + 1 } := Context.enter?_eq_some.mpr ⟨hroom, rfl⟩
  rw [runShared_apply, henter]
  exact ⟨rfl, fun _ hfailure => hfailure⟩

theorem runIsolated_enters {s : State} {parameters : Record}
    (hparameters : h.parameters n s.scope = .ok parameters)
    (hroom : s.scope.depth < h.config.maxCallDepth) :
    Leaves p (sequence exec p.nodes (s.entered p
        { s.scope.child parameters p.id with depth := s.scope.depth + 1 }))
      (runIsolated h exec n p s) := by
  have henter : (s.scope.child parameters p.id).enter? h.config.maxCallDepth =
      some { s.scope.child parameters p.id with depth := s.scope.depth + 1 } :=
    Context.enter?_eq_some.mpr ⟨hroom, rfl⟩
  rw [runIsolated_apply, hparameters]
  dsimp only
  rw [henter]
  exact ⟨rfl, fun _ hfailure => hfailure⟩

/-- What a call passes on is put down nowhere, and its failures are those of its program. -/
theorem Leaves.passOn {s : State} {x : Run Flow} {body : Except Failure Flow × State}
    {control : Bool} (hx : Leaves p body (x s)) :
    Leaves p body ((x >>= Run.passOn n control) s) := by
  rw [bind_apply]
  rcases hr : x s with ⟨failure | flow, t⟩
  · rw [hr] at hx
    exact hx
  · rw [hr] at hx
    dsimp only
    rw [passOn_apply]
    refine ⟨hx.journal, fun failure hfailure => ?_⟩
    have hok := hx.failure failure hfailure
    contradiction

/-- What a call begins with: its flags, and its parameters if its scope is its own. -/
theorem entry_call {s : Context} (hc : h.entry .call n p s = .ok c) :
    ∃ control, h.flagOr n "passControl" true s = .ok control ∧
      (h.flag n "shared" s = .ok true ∧ c = { s with depth := s.depth + 1, base := some p.id } ∨
        ∃ parameters, h.flag n "shared" s = .ok false ∧ h.parameters n s = .ok parameters ∧
          c = { s.child parameters p.id with depth := s.depth + 1 }) := by
  unfold Host.entry at hc
  dsimp only at hc
  cases hcontrol : h.flagOr n "passControl" true s with
  | error e => simp [hcontrol] at hc
  | ok control =>
    refine ⟨control, rfl, ?_⟩
    cases hshared : h.flag n "shared" s with
    | error e => simp [hcontrol, hshared] at hc
    | ok shared =>
      simp only [hcontrol, hshared] at hc
      cases shared with
      | true => exact .inl ⟨rfl, (Except.ok.inj hc).symm⟩
      | false =>
        cases hparameters : h.parameters n s with
        | error e => simp [hparameters, Except.map] at hc
        | ok parameters =>
          simp only [hparameters, Except.map] at hc
          exact .inr ⟨parameters, rfl, rfl, (Except.ok.inj hc).symm⟩

/-- A call whose program is found and whose flags can be told runs it, and passes on what
comes of it. -/
theorem perform_call {fuel : Nat} {s t : State} {control shared : Bool}
    (ht : target h n s = (.ok (.ok p), t))
    (hcontrol : h.flagOr n "passControl" true t.scope = .ok control)
    (hshared : h.flag n "shared" t.scope = .ok shared) :
    perform h fuel exec .call n s =
      (callee h exec n p shared >>= Run.passOn n control) t := by
  rw [perform, call_apply, ht]
  simp only [hcontrol, hshared]

theorem perform_evaluate {fuel : Nat} {s t : State} (ht : target h n s = (.ok (.ok p), t)) :
    perform h fuel exec .evaluate n s = runShared h exec p t := by
  rw [perform, evaluate, bind_apply, ht]

/-- A sub-program that is found is run if there is room for it. -/
theorem perform_enters {i : Instruction} (hi : i = .evaluate ∨ i = .call) {fuel : Nat}
    {s t : State} (ht : target h n s = (.ok (.ok p), t)) (hc : h.entry i n p t.scope = .ok c)
    (hroom : t.scope.depth < h.config.maxCallDepth) :
    Leaves p (sequence exec p.nodes (t.entered p c)) (perform h fuel exec i n s) := by
  obtain rfl | rfl := hi
  · obtain rfl := Except.ok.inj hc
    rw [perform_evaluate ht]
    exact runShared_enters hroom
  · obtain ⟨control, hcontrol, ⟨hshared, rfl⟩ | ⟨parameters, hshared, hparameters, rfl⟩⟩ :=
      entry_call hc
    · rw [perform_call ht hcontrol hshared]
      exact Leaves.passOn (runShared_enters hroom)
    · rw [perform_call ht hcontrol hshared]
      exact Leaves.passOn (runIsolated_enters hparameters hroom)

/-- A sub-program that is found is not entered if there is no room for it. -/
theorem perform_refuses {i : Instruction} (hi : i = .evaluate ∨ i = .call) {fuel : Nat}
    {s t : State} (ht : target h n s = (.ok (.ok p), t)) (hc : h.entry i n p t.scope = .ok c)
    (hfull : h.config.maxCallDepth ≤ t.scope.depth) :
    perform h fuel exec i n s =
      (.error (.error (tooDeep t.scope h.config.maxCallDepth)), t) := by
  have hrunShared : runShared h exec p t =
      (.error (.error (tooDeep t.scope h.config.maxCallDepth)), t) := by
    rw [runShared_apply, Context.enter?_eq_none.mpr hfull]
  obtain rfl | rfl := hi
  · rw [perform_evaluate ht]
    exact hrunShared
  · obtain ⟨control, hcontrol, ⟨hshared, -⟩ | ⟨parameters, hshared, hparameters, -⟩⟩ :=
      entry_call hc
    · have hcallee : callee h exec n p true t = runShared h exec p t := rfl
      rw [perform_call ht hcontrol hshared, bind_apply, hcallee, hrunShared]
    · have hcallee : callee h exec n p false t = runIsolated h exec n p t := rfl
      have hnone : (t.scope.child parameters p.id).enter? h.config.maxCallDepth = none :=
        Context.enter?_eq_none.mpr hfull
      rw [perform_call ht hcontrol hshared, bind_apply, hcallee]
      simp only [runIsolated_apply, hparameters, hnone]

/-! ## Whole requests -/

/-- A program heeds what interrupts its nodes. -/
theorem executeProgram_heeds (fuel : Nat) (id : String) :
    Heeds h .ok (executeProgram h fuel id) := by
  have hall (nodes : List Node) : Heeds h .ok (executeAll h fuel nodes) :=
    .sequence (execute_heeds h fuel) nodes
  have hload : Keeps Remarks (load h id) := fun _ => remarks_of_eq rfl
  refine .remarks_bind hload fun loaded => ?_
  cases loaded with
  | error e => exact .fail e
  | ok p =>
    refine .updateScope_bind ?_
    unfold executeNodes
    cases p.nodes with
    | nil => exact hall []
    | cons first rest =>
      refine .remarks_bind .output fun o => ?_
      split
      · refine .ask_bind fun d => .bind (consultCache_heeds d) (fun flow => ?_) fun flow hi => ?_
        · cases flow with
          | next => exact hall rest
          | _ => exact .pure _
        · obtain rfl | ⟨r, rfl⟩ := hi.flow
          · exact passes_pure .ok Flow.stop
          · exact passes_pure .ok (Flow.reply r)
      · exact hall (first :: rest)

/-- A fatal error of a node is the error of the program. -/
theorem executeProgram_fatal {fuel : Nat} {id name : String} {e : Error} {s : State}
    (he : e.isFatal = true) (hs : s.journal = [])
    (hended : .ended name (.error (.error e)) ∈ (executeProgram h fuel id s).2.journal) :
    (executeProgram h fuel id s).1 = .error (.error e) := by
  obtain ⟨new, hjournal, hheeds⟩ := executeProgram_heeds (h := h) fuel id s
  rw [bind_ok] at hheeds
  rw [hjournal, hs, List.append_nil] at hended
  obtain ⟨later, earlier, hsplit⟩ := List.append_of_mem hended
  rcases hheeds later name _ earlier hsplit (.fatal he) with ⟨-, hout⟩ | ⟨reply, hreply, -⟩
  · exact hout
  · contradiction

end Run

/-- One sub-program too many ends the request with status 500. -/
theorem Engine.run_tooDeep {e : Engine} {fuel : Nat} {r : Request} {request : Headers}
    {batch : Bool} {name : String} {depth limit : Nat}
    (hended : .ended name (.error (.error (.recursionLimit depth limit))) ∈
      (executeProgram (e.host request) fuel r.program
        (e.initialState (Context.ofParameters r.parameters) batch)).2.journal) :
    ∃ f envelope, e.run fuel r request batch = some f ∧
      f.response.outcome = .envelope envelope ∧ envelope.status = 500 := by
  have hresult := executeProgram_fatal rfl rfl hended
  rcases hend : executeProgram (e.host request) fuel r.program
    (e.initialState (Context.ofParameters r.parameters) batch) with ⟨result, t⟩
  rw [hend] at hresult
  obtain rfl : result = .error (.error (.recursionLimit depth limit)) := hresult
  let err : Error := .recursionLimit depth limit
  refine ⟨⟨Response.failure err t.output e.config.debug, { e with programs := t.programs },
    t.journal⟩, Envelope.ofError err e.config.debug, ?_, rfl, rfl⟩
  simp only [Engine.run, hend, err]

namespace Run

/-- Nothing has happened yet, and no sub-program is open. -/
theorem tracked_initial {limit : Nat} {s : State} (hjournal : s.journal = [])
    (hdepth : s.scope.depth = 0) : Tracked limit [] s where
  running := by rw [hjournal, Journal.running]
  depth := hdepth
  bound := Nat.zero_le limit
  nested := by
    rw [hjournal]
    exact Journal.nested_nil

/-- **Sub-programs are nested exactly up to the limit.**

1. In a run that begins with nothing open, every node that begins tells how many sub-programs
   are open, which are at no time more than the limit; in the end none is open.
2. Every node leaves as many open as it found, wherever it stands and however it ends.
3. A node whose program is found, and whose flags and parameters can be told, runs the nodes
   of that program if fewer are open than the limit permits.  If they are as many, it enters
   nothing and fails with the error that says so.
4. That error ends the request with an envelope of status 500, whatever blocks it passes. -/
theorem nested_exactly_to_limit (h : Host) :
    (∀ fuel s, s.journal = [] → s.scope.depth = 0 → ∀ x, (∃ nodes, x = executeAll h fuel nodes) ∨
        (∃ id, x = executeProgram h fuel id) →
      (x s).2.journal.Nested h.config.maxCallDepth ∧
        (∀ later earlier, (x s).2.journal = later ++ earlier →
          (Journal.running earlier).length ≤ h.config.maxCallDepth) ∧
        (x s).2.journal.running = [] ∧ (x s).2.scope.depth = 0) ∧
      (∀ fuel n active s, Tracked h.config.maxCallDepth active s →
        Tracked h.config.maxCallDepth active (execute h fuel n s).2) ∧
      (∀ fuel n i p c s t, h.registry.find? n.name = some i → i = .evaluate ∨ i = .call →
        target h n (beginning n s) = (.ok (.ok p), t) → h.entry i n p t.scope = .ok c →
        let body := executeAll h fuel p.nodes (t.entered p c)
        let out := execute h (fuel + 1) n s
        (s.scope.depth < h.config.maxCallDepth →
          out.2.journal = .ended n.name out.1 :: .closed p.id :: body.2.journal ∧
            ∀ failure, body.1 = .error failure → out.1 = .error failure) ∧
        (s.scope.depth = h.config.maxCallDepth →
          out.1 = .error (.error
            (.recursionLimit (h.config.maxCallDepth + 1) h.config.maxCallDepth)) ∧
          out.2.journal = .ended n.name out.1 :: .began n.name s.scope.depth :: s.journal)) ∧
      ∀ (e : Engine) fuel r request batch name depth limit,
        .ended name (.error (.error (.recursionLimit depth limit))) ∈
          (executeProgram (e.host request) fuel r.program
            (e.initialState (Context.ofParameters r.parameters) batch)).2.journal →
        ∃ f envelope, e.run fuel r request batch = some f ∧
          f.response.outcome = .envelope envelope ∧ envelope.status = 500 := by
  refine ⟨?_, fun fuel n active s hs => execute_tracked fuel n hs, ?_,
    fun e fuel r request batch name depth limit hended => Engine.run_tooDeep hended⟩
  · intro fuel s hjournal hdepth x hx
    have hs : Tracked h.config.maxCallDepth [] s := tracked_initial hjournal hdepth
    have hend : Tracked h.config.maxCallDepth [] (x s).2 := by
      obtain ⟨nodes, rfl⟩ | ⟨id, rfl⟩ := hx
      · exact executeAll_tracked fuel nodes hs
      · exact executeProgram_tracked fuel id hs
    refine ⟨hend.nested, fun later earlier hsplit => ?_, hend.running, hend.depth⟩
    have hnested := hend.nested
    rw [hsplit] at hnested
    exact hnested.earlier.length_running_le
  · intro fuel n i p c s t hfind hi ht hc body out
    have hout : out = execute h (fuel + 1) n s := rfl
    rw [execute_known hfind] at hout
    obtain ⟨programs, hprograms⟩ : Loads (beginning n s) t := by
      have hloads := target_loads h n (beginning n s)
      rwa [ht] at hloads
    have hdepth : t.scope.depth = s.scope.depth := by
      rw [hprograms]
      rfl
    constructor
    · intro hroom
      have henters : Leaves p body (perform h fuel (execute h fuel) i n (beginning n s)) :=
        perform_enters hi ht hc (hdepth ▸ hroom)
      rcases hperform : perform h fuel (execute h fuel) i n (beginning n s) with ⟨result, last⟩
      rw [hperform] at henters hout
      rw [hout]
      exact ⟨congrArg (.ended n.name result :: ·) henters.journal, henters.failure⟩
    · intro hfull
      have hrefuses : perform h fuel (execute h fuel) i n (beginning n s) =
          (.error (.error (tooDeep t.scope h.config.maxCallDepth)), t) :=
        perform_refuses hi ht hc (by omega)
      rw [hrefuses, tooDeep, hdepth, hfull] at hout
      rw [hout, hprograms]
      exact ⟨rfl, rfl⟩

/-- A program that evaluates itself, in a block that lets no error out. -/
def selfProgram : List Node :=
  [{ name := "block", attributes := [("inhibit", "1")], children :=
      [{ name := "evaluate", attributes := [("src", "self")] }] }]

/-- The node in it that does so. -/
def selfNode : Node := { name := "evaluate", attributes := [("src", "self")] }

/-- An engine with that program, which permits two sub-programs to be open. -/
def selfEngine : Engine :=
  { config := { maxCallDepth := 2 }, origin := .library (Library.insert {} "self" selfProgram) }

/-- What the engine finds under the name. -/
def selfFound : Program := ⟨"self", selfProgram, .written 1⟩

/-- The state of that node when it has found the program, with so many open. -/
def selfState (depth : Nat) : State :=
  { beginning selfNode (State.ofScope { depth := depth }) with
    programs := [("self", selfFound)] }

theorem target_selfNode (depth : Nat) :
    target (selfEngine.host []) selfNode (beginning selfNode (State.ofScope { depth := depth })) =
      (.ok (.ok selfFound), selfState depth) := by
  cbv

/-- What becomes of the third. -/
def selfResult : Except Failure Flow := .error (.error (.recursionLimit 3 2))

theorem selfEngine_journal :
    (executeProgram (selfEngine.host []) 9 "self"
      (selfEngine.initialState (Context.ofParameters []) false)).2.journal =
      [.ended "block" selfResult, .ended "evaluate" selfResult, .closed "self",
        .ended "block" selfResult, .ended "evaluate" selfResult, .closed "self",
        .ended "block" selfResult, .ended "evaluate" selfResult,
        .began "evaluate" 2, .began "block" 2, .opened "self",
        .began "evaluate" 1, .began "block" 1, .opened "self",
        .began "evaluate" 0, .began "block" 0] := by
  cbv

theorem selfEngine_tooDeep :
    .ended "evaluate" (.error (.error (.recursionLimit 3 2))) ∈
      (executeProgram (selfEngine.host []) 9 "self"
        (selfEngine.initialState (Context.ofParameters []) false)).2.journal := by
  rw [selfEngine_journal, selfResult]
  simp

theorem nested_exactly_to_limit_self :
    let h := selfEngine.host []
    let s : Nat → State := fun depth => State.ofScope { depth := depth }
    let c : Nat → Context := fun depth => { depth := depth + 1, base := some "self" }
    (target h selfNode (beginning selfNode (s 0)) = (.ok (.ok selfFound), selfState 0) ∧
      h.entry .evaluate selfNode selfFound (selfState 0).scope = .ok (c 0) ∧
      (execute h (8 + 1) selfNode (s 0)).2.journal =
        .ended selfNode.name (execute h (8 + 1) selfNode (s 0)).1 :: .closed selfFound.id ::
          (executeAll h 8 selfFound.nodes ((selfState 0).entered selfFound (c 0))).2.journal) ∧
    (target h selfNode (beginning selfNode (s 2)) = (.ok (.ok selfFound), selfState 2) ∧
      h.entry .evaluate selfNode selfFound (selfState 2).scope = .ok (c 2) ∧
      (execute h (8 + 1) selfNode (s 2)).1 = selfResult) ∧
    (executeAll h 9 [selfNode] (s 0)).2.journal.Nested 2 ∧
    ∃ f envelope, selfEngine.run 9 ⟨"self", []⟩ [] false = some f ∧
      f.response.outcome = .envelope envelope ∧ envelope.status = 500 := by
  intro h s c
  obtain ⟨hmoments, -, hentering, hrequest⟩ := nested_exactly_to_limit h
  have hfind : h.registry.find? selfNode.name = some .evaluate := rfl
  have hruns := (hentering 8 selfNode .evaluate selfFound (c 0) (s 0) (selfState 0) hfind
    (.inl rfl) (target_selfNode 0) rfl).1 (by decide)
  have hrefuses := (hentering 8 selfNode .evaluate selfFound (c 2) (s 2) (selfState 2) hfind
    (.inl rfl) (target_selfNode 2) rfl).2 rfl
  have hnested := hmoments 9 (s 0) rfl rfl _ (.inl ⟨[selfNode], rfl⟩)
  exact ⟨⟨target_selfNode 0, rfl, hruns.1⟩, ⟨target_selfNode 2, rfl, hrefuses.1⟩, hnested.1,
    hrequest selfEngine 9 ⟨"self", []⟩ [] false "evaluate" 3 2 selfEngine_tooDeep⟩

end Run

end ActionTree
