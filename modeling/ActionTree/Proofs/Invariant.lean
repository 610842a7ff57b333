import ActionTree.Proofs.Extension
import ActionTree.Proofs.Mild
import ActionTree.Proofs.Settle

/-!
# ActionTree.Proofs.Invariant

What every run keeps, and with what failures it may end.

1. what kinds of states and failures a run can be held to is said once (`Invariant`):
   changes of scopes and settings, loads and journal entries keep the kind, and a
   sub-program may have states of a kind of its own;
2. an instruction settles if the nodes that it really executes do (`Invariant.perform`);
3. so with a fixed amount of fuel all nodes settle that may be met (`Closed`,
   `executeWith_settles`, `programWith_settles`).
-/

namespace ActionTree

open Run

/-! ## Invariants -/

/-- Kinds of states, and a kind of failures.  `I i` are the states of a kind, and
`I (inner i id)` are those of the program of an id that was entered from such a state. -/
structure Invariant (h : Host) {ι : Type} (P : Failure → Prop) (I : ι → State → Prop)
    (inner : ι → String → ι) : Prop where
  mild : ∀ {e : Error}, e.isFatal = false → P (.error e)
  leaf : ∀ {i s t}, Local s t → I i s → I i t
  /-- A loop sets the form and the position. -/
  place : ∀ {i s}, I i s → ∀ form index,
    I i { s with scope := { s.scope with form := form, index := index } }
  /-- The program that a request names was found. -/
  based : ∀ {i s}, I i s → ∀ base, I i { s with scope := { s.scope with base := base } }
  load : ∀ {i s}, I i s → ∀ id,
    I i { s with programs := (s.programs.load h.source h.registry id).2 }
  unread : ∀ {i s id e}, I i s → (s.programs.load h.source h.registry id).1 = .error e →
    P (.error e)
  tooDeep : ∀ {i s}, I i s → h.config.maxCallDepth ≤ s.scope.depth →
    P (.error (tooDeep s.scope h.config.maxCallDepth))
  began : ∀ {i s}, I i s → ∀ name,
    I i { s with journal := .began name s.scope.depth :: s.journal }
  ended : ∀ {i s}, I i s → ∀ name result,
    I i { s with journal := .ended name result :: s.journal }
  opened : ∀ {i s}, I i s → s.scope.depth < h.config.maxCallDepth →
    ∀ {c : Context}, c.depth = s.scope.depth + 1 → ∀ id,
      I (inner i id) { s with scope := c, journal := .opened id :: s.journal }
  closed : ∀ {i s t id}, I i s → I (inner i id) t → ∀ {c : Context},
    c.depth = s.scope.depth ∨ c.depth = t.scope.depth - 1 →
      I i { t with scope := c, journal := .closed id :: t.journal }

/-- A program that is found from a state of a kind. -/
def Findable (h : Host) (I : State → Prop) (p : Program) : Prop :=
  ∃ s id, I s ∧ (s.programs.load h.source h.registry id).1 = .ok p

/-- From some state of a kind one more sub-program may be opened. -/
def HasRoom (h : Host) (I : State → Prop) : Prop :=
  ∃ s, I s ∧ s.scope.depth < h.config.maxCallDepth

/-- A loop that may go on for ever. -/
def Instruction.isOpenEnded (i : Instruction) (n : Node) : Prop :=
  i = .stackLoop ∨ i = .loop ∧ (n.hasAttr "to" || n.hasAttr "count") = false

section Constructs

variable {κ : Type}

/-- What has to settle for the instruction of a node to settle: the nodes that it executes,
if it is one that executes any, and those of the programs that it may run.  Where nothing
else bounds the rounds of a loop, the fuel must be the same for all of the family. -/
structure Settling (h : Host) {ι : Type} (F : Filter κ) (P : Failure → Prop)
    (I : ι → State → Prop) (inner : ι → String → ι) (fuel : κ → Nat)
    (exec : κ → Node → Run Flow) (i : ι) (instr : Instruction) (n : Node) : Prop where
  children : instr.layout = .instructions → ∀ m ∈ n.children,
    Settles F (I i) (Allows P) fun k => exec k m
  branches : instr = .switch → ∀ b ∈ n.children, ∀ m ∈ b.children,
    Settles F (I i) (Allows P) fun k => exec k m
  select : instr = .switch → ∀ subject c e, h.select subject c n.children = .error e →
    P (.error e)
  programs : ∀ p, Findable h (I i) p → HasRoom h (I i) → ∀ m ∈ p.nodes,
    Settles F (I (inner i p.id)) (Allows P) fun k => exec k m
  bounded : instr.isOpenEnded n → (∃ m, fuel = fun _ => m) ∧ P .outOfFuel

end Constructs

/-- The branch that a switch takes is one of those that there are. -/
theorem Host.select_mem (h : Host) {subject : String} {c : Context} {branches : List Node}
    {b : Node} (hb : h.select subject c branches = .ok (some b)) : b ∈ branches := by
  induction branches with
  | nil =>
    have hnone : (none : Option Node) = some b := Except.ok.inj hb
    contradiction
  | cons first rest ih =>
    unfold Host.select at hb
    split at hb
    · contradiction
    · obtain rfl : first = b := Option.some.inj (Except.ok.inj hb)
      exact List.mem_cons_self
    · exact List.mem_cons_of_mem first (ih hb)

namespace Invariant

variable {h : Host} {ι κ : Type} {P : Failure → Prop} {I : ι → State → Prop}
  {inner : ι → String → ι} {F : Filter κ} (hI : Invariant h P I inner) {i : ι}

include hI

/-! ### Primitives -/

/-- A run that does no more than an instruction without nodes further in. -/
theorem leaf_settles {α : Type} {x : Run α} (hx : Keeps Local x) (hm : FailsMildly x) :
    Settles F (I i) (Allows P) fun _ => x := by
  refine .const (fun s _ failure hfailure => ?_) fun s hs => hI.leaf (hx s) hs
  have hmild := hm s failure hfailure
  cases failure with
  | error e => exact hI.mild hmild
  | outOfFuel => exact hmild.elim

theorem ask_bind {α β : Type} {question : Context → Except Error α} {f : κ → α → Run β}
    (hq : ∀ c, Mild (question c)) (hf : ∀ a, Settles F (I i) (Allows P) fun k => f k a) :
    Settles F (I i) (Allows P) fun k => ask question >>= f k :=
  .ask_bind (fun c e he => hI.mild (hq c e he)) hf

theorem updateScope_bind {β : Type} {g : Context → Context} {f : κ → Unit → Run β}
    (hg : ∀ c : Context, c.Stays (g c)) (hf : Settles F (I i) (Allows P) fun k => f k ()) :
    Settles F (I i) (Allows P) fun k => updateScope g >>= f k :=
  .andThen (hI.leaf_settles (Local.updateScope hg) (.updateScope g)) fun _ => hf

/-- A change of the scope that a loop makes. -/
theorem place_bind {β : Type} {g : Context → Context} {f : κ → Unit → Run β}
    (hg : ∀ c, ∃ form index, g c = { c with form := form, index := index })
    (hf : Settles F (I i) (Allows P) fun k => f k ()) :
    Settles F (I i) (Allows P) fun k => updateScope g >>= f k := by
  refine .andThen (.const (fun _ _ => allows_ok P ()) fun s hs => ?_) fun _ => hf
  obtain ⟨form, index, hc⟩ := hg s.scope
  rw [updateScope_apply, hc]
  exact hI.place hs form index

theorem bindElement_bind {β : Type} {saved : Snapshot} {element : Value} {field : Option String}
    {position : Nat} {f : κ → Unit → Run β}
    (hf : Settles F (I i) (Allows P) fun k => f k ()) :
    Settles F (I i) (Allows P) fun k => bindElement saved element field position >>= f k := by
  refine hI.place_bind (fun c => ?_) hf
  unfold Context.bind
  split <;> exact ⟨_, _, rfl⟩

theorem restoring {α : Type} {Q : Except Failure α → Prop} {body : κ → Snapshot → Run α}
    (hbody : ∀ saved, Settles F (I i) Q fun k => body k saved) :
    Settles F (I i) Q fun k => Run.restoring (body k) := by
  intro s hs
  obtain ⟨result, t, hend, hresult, ht⟩ := hbody s.scope.save s hs
  refine ⟨result, { t with scope := t.scope.restore s.scope.save }, ?_, hresult,
    hI.place ht s.scope.form s.scope.index⟩
  filter_upwards [hend] with k hk
  rw [restoring_apply, hk]

/-! ### Loops -/

section Loops

variable {exec : κ → Node → Run Flow} {n : Node}
  (hchildren : ∀ m ∈ n.children, Settles F (I i) (Allows P) fun k => exec k m)

include hchildren

omit hI in
theorem bodyRound : Settles F (I i) (Allows P) fun k => Run.bodyRound (exec k) n :=
  .andThen (.sequence hchildren) fun flow => .pure flow.ofRound

theorem countedLoop : Settles F (I i) (Allows P) fun k => Run.countedLoop h (exec k) n := by
  refine hI.ask_bind (mild_progression h n) fun p => hI.restoring fun _ =>
    .roundsAlong (fun counter position => hI.place_bind (fun c => ?_) (bodyRound hchildren)) _ _
  cases n.name? "field" <;> exact ⟨_, _, rfl⟩

theorem conditionalLoop (hP : P .outOfFuel) (fuel : Nat) :
    Settles F (I i) (Allows P) fun k => Run.conditionalLoop fuel (exec k) n := by
  refine hI.restoring fun _ => .roundsWithin hP (fun position => ?_) fuel 0
  refine hI.ask_bind (fun c => mild_condition n "condition" c) fun holds => ?_
  cases holds with
  | true => exact hI.place_bind (fun c => ⟨c.form, _, rfl⟩) (bodyRound hchildren)
  | false => exact .pure _

theorem loop {fuel : κ → Nat}
    (hfuel : (n.hasAttr "to" || n.hasAttr "count") = false →
      (∃ m, fuel = fun _ => m) ∧ P .outOfFuel) :
    Settles F (I i) (Allows P) fun k => Run.loop h (fuel k) (exec k) n := by
  unfold Run.loop
  split
  · exact hI.countedLoop hchildren
  · next hopen =>
    split
    · obtain ⟨⟨m, rfl⟩, hP⟩ := hfuel (Bool.eq_false_iff.mpr hopen)
      exact hI.conditionalLoop hchildren hP m
    · exact .fail (hI.mild rfl)

theorem traverse : Settles F (I i) (Allows P) fun k => Run.traverse h (exec k) n := by
  refine hI.ask_bind (mild_traversal h n) fun t => .bind (hI.restoring fun saved =>
    .visit (fun position v => hI.bindElement_bind ?_) t.visits) ?_ fun visited hvisited => ?_
  · exact .andThen (.sequence hchildren) fun _ => .scope_bind fun _ => .pure _
  · rintro failure ⟨_, hok, -⟩
    contradiction
  · obtain ⟨_, hsame, hr⟩ := hvisited
    obtain rfl := Except.ok.inj hsame
    dsimp only
    split
    · exact .release hr
    · exact hI.updateScope_bind (fun c => c.stays_set _ _) (.release hr)

theorem stackLoop (hP : P .outOfFuel) (fuel : Nat) :
    Settles F (I i) (Allows P) fun k => Run.stackLoop h fuel (exec k) n := by
  refine hI.ask_bind (mild_attr h n "source") fun source => ?_
  split
  · exact .fail (hI.mild rfl)
  · refine hI.restoring fun saved => .roundsWithin hP (fun position => ?_) fuel 0
    refine .andThen (hI.leaf_settles (pop_local source) (pop_mild source)) fun element => ?_
    cases element with
    | none => exact .pure _
    | some element => exact hI.bindElement_bind (bodyRound hchildren)

theorem reader : Settles F (I i) (Allows P) fun k => Run.reader h (exec k) n := by
  refine hI.ask_bind (mild_attrOrText h n "sql") fun statement =>
    .andThen (hI.leaf_settles (consult_local h _) (consult_mild h _)) fun cursor =>
      hI.restoring fun saved => .roundsOver ?_ (fun position row => ?_) _ _
  · exact hI.leaf_settles (endOfRows_local cursor) (endOfRows_mild cursor)
  · exact hI.bindElement_bind (bodyRound hchildren)

/-! ### Blocks and switches -/

theorem block : Settles F (I i) (Allows P) fun k => Run.block h (exec k) n := by
  refine hI.ask_bind (mild_enters h n) fun entered => ?_
  cases entered with
  | false => exact .pure _
  | true =>
    refine .bind (.attempt (.sequence hchildren)) ?_ fun result hresult => ?_
    · rintro failure ⟨_, hok, -⟩
      contradiction
    · obtain ⟨_, hsame, hr⟩ := hresult
      obtain rfl := Except.ok.inj hsame
      rcases result with (e | _) | flow
      · dsimp only
        split
        · exact .fail (hr (.error e) rfl)
        · next hmild =>
          exact hI.leaf_settles (recover_local h n e)
            (recover_mild h n (Bool.eq_false_iff.mpr hmild))
      · exact .throw (hr .outOfFuel rfl)
      · exact .pure flow

end Loops

omit hI in
/-- Choosing a branch changes nothing, and the branch is one of those that there are. -/
theorem select_settles {subject : String} {branches : List Node}
    (hselect : ∀ c e, h.select subject c branches = .error e → P (.error e)) :
    Settles F (I i)
      (fun r => Allows P r ∧ ∀ b, r = .ok (some b) → b ∈ branches)
      fun _ => ask fun c => h.select subject c branches := by
  refine .const (fun s _ => ?_) fun s hs => ?_
  · rw [ask_apply]
    cases hb : h.select subject s.scope branches with
    | error e => exact ⟨allows_error (hselect s.scope e hb), by simp [Except.mapError]⟩
    | ok found =>
      refine ⟨allows_ok P found, fun b hfound => ?_⟩
      obtain rfl : found = some b := Except.ok.inj hfound
      exact h.select_mem hb
  · rwa [ask_apply]

theorem switch {exec : κ → Node → Run Flow} {n : Node}
    (hbranches : ∀ b ∈ n.children, ∀ m ∈ b.children,
      Settles F (I i) (Allows P) fun k => exec k m)
    (hselect : ∀ subject c e, h.select subject c n.children = .error e → P (.error e)) :
    Settles F (I i) (Allows P) fun k => Run.switch h (exec k) n := by
  refine hI.ask_bind (mild_attr? h n "subject") fun subject =>
    .bind (select_settles (hselect _)) (fun failure hr => ?_) fun found hr => ?_
  · exact allows_error (hr.1 failure rfl)
  · cases found with
    | some b => exact .sequence (hbranches b (hr.2 b rfl))
    | none => exact .pure _

/-! ### Sub-programs -/

theorem load_settles (id : String) :
    Settles F (I i) (fun r => ∃ s, I i s ∧ r = .ok (s.programs.load h.source h.registry id).1)
      fun _ => Run.load h id :=
  .const (fun s hs => ⟨s, hs, rfl⟩) fun _ hs => hI.load hs id

/-- A program that is found is one that may be found. -/
theorem target_settles (n : Node) :
    Settles F (I i) (fun r => Allows P r ∧ ∀ p, r = .ok (.ok p) → Findable h (I i) p)
      fun _ => target h n := by
  refine .const (fun s hs => ?_) fun s hs => ?_
  · rw [target_apply]
    cases hsrc : h.attr n "src" s.scope with
    | error e =>
      have hmild : e.isFatal = false := mild_attr h n "src" s.scope e hsrc
      exact ⟨allows_error (hI.mild hmild), by simp⟩
    | ok src =>
      dsimp only
      split
      · next p hp =>
        refine ⟨allows_ok P _, fun found hfound => ?_⟩
        obtain rfl : p = found := Except.ok.inj (Except.ok.inj hfound)
        exact ⟨s, _, hs, hp⟩
      · cases hflag : h.flag n "inhibit" s.scope with
        | error e =>
          have hmild : e.isFatal = false := mild_flag h n "inhibit" s.scope e hflag
          exact ⟨allows_error (hI.mild hmild), by simp [Except.mapError, Except.map]⟩
        | ok inhibited => exact ⟨allows_ok P _, by simp [Except.mapError, Except.map]⟩
      · next e he => exact ⟨allows_error (hI.unread hs he), by simp⟩
  · rw [target_apply]
    split
    · exact hs
    · exact hI.load hs _

section Calls

variable {exec : κ → Node → Run Flow} {n : Node} {p : Program}
  (hnodes : HasRoom h (I i) → ∀ m ∈ p.nodes,
    Settles F (I (inner i p.id)) (Allows P) fun k => exec k m)

include hnodes

theorem inside {s : State} (c : Context) (after : Context → Context) (hs : I i s)
    (hroom : s.scope.depth < h.config.maxCallDepth) (hc : c.depth = s.scope.depth + 1)
    (hafter : ∀ last : Context,
      (after last).depth = s.scope.depth ∨ (after last).depth = last.depth - 1) :
    SettlesFrom F (I i) (Allows P) (fun k => Run.inside (exec k) p c after) s := by
  have hbegin := hI.opened hs hroom hc p.id
  have hbody : Settles F (I (inner i p.id)) (Allows P) fun k => Run.sequence (exec k) p.nodes :=
    .sequence (hnodes ⟨s, hs, hroom⟩)
  obtain ⟨result, t, hend, hresult, ht⟩ := hbody _ hbegin
  refine ⟨result, { t with scope := after t.scope, journal := .closed p.id :: t.journal },
    ?_, hresult, hI.closed hs ht (hafter t.scope)⟩
  filter_upwards [hend] with k hk
  rw [inside_apply, hk]

theorem runShared : Settles F (I i) (Allows P) fun k => Run.runShared h (exec k) p := by
  intro s hs
  cases hc : s.scope.enter? h.config.maxCallDepth with
  | none =>
    have hdeep : h.config.maxCallDepth ≤ s.scope.depth := Context.enter?_eq_none.mp hc
    have hfail : ∀ k, Run.runShared h (exec k) p s =
        (.error (.error (Run.tooDeep s.scope h.config.maxCallDepth)), s) := by
      intro k
      rw [runShared_apply, hc]
    exact ⟨_, s, .of_forall hfail, allows_error (hI.tooDeep hs hdeep), hs⟩
  | some c =>
    obtain ⟨hroom, rfl⟩ := Context.enter?_eq_some.mp hc
    refine (hI.inside hnodes { s.scope with depth := s.scope.depth + 1, base := some p.id }
      (fun last => { last.leave with base := s.scope.base }) hs hroom rfl
      fun last => .inr rfl).congr (.of_forall fun k => ?_)
    rw [runShared_apply, hc]

theorem runIsolated : Settles F (I i) (Allows P) fun k => Run.runIsolated h (exec k) n p := by
  intro s hs
  cases hp : h.parameters n s.scope with
  | error e =>
    have hfail : ∀ k, Run.runIsolated h (exec k) n p s = (.error (.error e), s) := by
      intro k
      rw [runIsolated_apply, hp]
    have hmild : e.isFatal = false := mild_parameters h n s.scope e hp
    exact ⟨_, s, .of_forall hfail, allows_error (hI.mild hmild), hs⟩
  | ok parameters =>
    cases hc : (s.scope.child parameters p.id).enter? h.config.maxCallDepth with
    | none =>
      have hdeep : h.config.maxCallDepth ≤ (s.scope.child parameters p.id).depth :=
        Context.enter?_eq_none.mp hc
      have hfail : ∀ k, Run.runIsolated h (exec k) n p s =
          (.error (.error (Run.tooDeep s.scope h.config.maxCallDepth)), s) := by
        intro k
        simp only [runIsolated_apply, hp, hc]
      exact ⟨_, s, .of_forall hfail, allows_error (hI.tooDeep hs hdeep), hs⟩
    | some c =>
      obtain ⟨hroom, hchild⟩ := Context.enter?_eq_some.mp hc
      have hdepth : c.depth = s.scope.depth + 1 := by
        rw [hchild]
        rfl
      refine (hI.inside hnodes c (fun last =>
        s.scope.importFields (last.exports h.config.exportMarker)) hs hroom hdepth
        fun last => .inl rfl).congr (.of_forall fun k => ?_)
      simp only [runIsolated_apply, hp, hc]

omit hnodes

variable (hprograms : ∀ p, Findable h (I i) p → HasRoom h (I i) → ∀ m ∈ p.nodes,
    Settles F (I (inner i p.id)) (Allows P) fun k => exec k m)

include hprograms

theorem evaluate : Settles F (I i) (Allows P) fun k => Run.evaluate h (exec k) n := by
  refine .bind (hI.target_settles n) (fun failure hr => allows_error (hr.1 failure rfl))
    fun found hr => ?_
  cases found with
  | ok p => exact hI.runShared (hprograms p (hr.2 p rfl))
  | error flow => exact .pure flow

theorem call : Settles F (I i) (Allows P) fun k => Run.call h (exec k) n := by
  refine .bind (hI.target_settles n) (fun failure hr => allows_error (hr.1 failure rfl))
    fun found hr => ?_
  cases found with
  | error flow => exact .pure flow
  | ok p =>
    have hnodes := hprograms p (hr.2 p rfl)
    refine hI.ask_bind (fun c => mild_flagOr h n "passControl" c true) fun control =>
      hI.ask_bind (mild_flag h n "shared") fun shared => .andThen ?_ fun flow =>
        hI.leaf_settles (passOn_local n control flow) (passOn_mild n control flow)
    cases shared with
    | true => exact hI.runShared hnodes
    | false => exact hI.runIsolated hnodes

end Calls

/-! ### Nodes -/

/-- An instruction settles if the nodes that it executes do. -/
theorem perform {fuel : κ → Nat} {exec : κ → Node → Run Flow} {instr : Instruction} {n : Node}
    (hcache : instr ≠ .cache) (hS : Settling h F P I inner fuel exec i instr n) :
    Settles F (I i) (Allows P) fun k => Run.perform h (fuel k) (exec k) instr n := by
  by_cases hleaf : instr.isLeaf = true
  · have hsame : ∀ k, Run.perform h (fuel k) (exec k) instr n =
        Run.perform h 0 (fun _ => Pure.pure .next) instr n := fun k => perform_leaf h n hleaf
    simp only [hsame]
    exact hI.leaf_settles (perform_local h n hleaf) (perform_mild h n hleaf)
  · cases instr with
    | cache => exact absurd rfl hcache
    | block => exact hI.block (hS.children rfl)
    | switch => exact hI.switch (hS.branches rfl) (hS.select rfl)
    | loop => exact hI.loop (hS.children rfl) fun hopen => hS.bounded (.inr ⟨rfl, hopen⟩)
    | traverse => exact hI.traverse (hS.children rfl)
    | stackLoop =>
      obtain ⟨⟨m, rfl⟩, hP⟩ := hS.bounded (.inl rfl)
      exact hI.stackLoop (hS.children rfl) hP m
    | reader => exact hI.reader (hS.children rfl)
    | evaluate => exact hI.evaluate hS.programs
    | call => exact hI.call hS.programs
    | _ => exact absurd rfl hleaf

/-- A node begins, something is done, and the node ends. -/
theorem node {n : Node} {x y : κ → Run Flow} (hx : Settles F (I i) (Allows P) x)
    (hy : ∀ k s, y k s =
      let (result, t) := x k (beginning n s)
      (result, { t with journal := .ended n.name result :: t.journal })) :
    Settles F (I i) (Allows P) y := by
  intro s hs
  obtain ⟨result, t, hend, hresult, ht⟩ := hx (beginning n s) (hI.began hs n.name)
  refine ⟨result, { t with journal := .ended n.name result :: t.journal }, ?_, hresult,
    hI.ended ht n.name result⟩
  filter_upwards [hend] with k hk
  rw [hy, hk]

end Invariant

/-! ## Whole runs -/

/-- Hosts that no instruction tells apart but the one that asks for a stored response. -/
structure Host.Alike (h h' : Host) : Prop where
  config : h'.config = h.config
  registry : h'.registry = h.registry
  services : h'.services = h.services
  request : h'.request = h.request
  load : ∀ id, load h' id = load h id

namespace Host.Alike

variable {h h' : Host} (hh : Host.Alike h h')

include hh

theorem select_eq (subject : String) (c : Context) (branches : List Node) :
    h'.select subject c branches = h.select subject c branches := by
  obtain ⟨config, registry, services, source, stored, request⟩ := h
  obtain ⟨config', registry', services', source', stored', request'⟩ := h'
  obtain rfl : services' = services := hh.services
  induction branches with
  | nil => rfl
  | cons b bs ih =>
    unfold Host.select
    rw [ih]
    rfl

theorem parameters_eq (n : Node) (c : Context) : h'.parameters n c = h.parameters n c := by
  obtain ⟨config, registry, services, source, stored, request⟩ := h
  obtain ⟨config', registry', services', source', stored', request'⟩ := h'
  obtain rfl : services' = services := hh.services
  have hadd (r : Record) (ns : List Node) :
      Host.addParameters ⟨config', registry', services', source', stored', request'⟩ c r ns =
        Host.addParameters ⟨config, registry, services', source, stored, request⟩ c r ns := by
    induction ns generalizing r with
    | nil => rfl
    | cons child ns ih =>
      unfold Host.addParameters
      simp only [ih]
      rfl
  unfold Host.parameters
  simp only [hadd]
  rfl

theorem perform_eq {fuel : Nat} {exec : Node → Run Flow} {instr : Instruction} {n : Node}
    (hcache : instr ≠ .cache) : perform h' fuel exec instr n = perform h fuel exec instr n := by
  have hselect := hh.select_eq
  have hparameters : h'.parameters n = h.parameters n := funext (hh.parameters_eq n)
  obtain ⟨config, registry, services, source, stored, request⟩ := h
  obtain ⟨config', registry', services', source', stored', request'⟩ := h'
  obtain ⟨rfl, rfl, rfl, rfl, hload⟩ := hh
  cases instr with
  | cache => exact absurd rfl hcache
  | switch =>
    simp only [perform, switch, hselect]
    rfl
  | evaluate =>
    simp only [perform, evaluate, Run.target, hload]
    rfl
  | call =>
    simp only [perform, call, Run.target, callee, runIsolated, hload, hparameters]
    rfl
  | _ => rfl

end Host.Alike

/-- The host with other stored responses. -/
def Host.storing (h : Host) (stored : String → Nat → Option StoredResponse) : Host :=
  { h with stored := stored }

/-- Only the instruction that asks for a stored response knows of them. -/
theorem perform_storing (h : Host) (stored : String → Nat → Option StoredResponse) {fuel : Nat}
    {exec : Node → Run Flow} {instr : Instruction} {n : Node} (hcache : instr ≠ .cache) :
    perform (h.storing stored) fuel exec instr n = perform h fuel exec instr n := by
  have hh : Host.Alike h (h.storing stored) := ⟨rfl, rfl, rfl, rfl, fun _ => rfl⟩
  exact hh.perform_eq hcache

section Runs

variable {h : Host} {ι κ : Type} {P : Failure → Prop} {I : ι → State → Prop}
  {inner : ι → String → ι} {F : Filter κ} {own : Extension}
  {stored : κ → String → Nat → Option StoredResponse}

/-- Nodes that may be met, closed under going further in: to the children of a node, to the
branches of a switch, and to the programs that are found.  A marker settles if what it
executes does. -/
structure Closed (h : Host) (F : Filter κ) (P : Failure → Prop) (I : ι → State → Prop)
    (inner : ι → String → ι) (own : Extension) (N : ι → Node → Prop) : Prop where
  unknown : ∀ {i n}, N i n → h.registry.find? n.name = none →
    P (.error (.unknownInstruction n.name))
  children : ∀ {i n instr}, N i n → h.registry.find? n.name = some instr → instr ≠ .marker →
    instr.layout = .instructions → ∀ m ∈ n.children, N i m
  branches : ∀ {i n}, N i n → h.registry.find? n.name = some .switch →
    ∀ b ∈ n.children, ∀ m ∈ b.children, N i m
  select : ∀ {i n}, N i n → h.registry.find? n.name = some .switch →
    ∀ subject c e, h.select subject c n.children = .error e → P (.error e)
  programs : ∀ {i p}, Findable h (I i) p → ∀ m ∈ p.nodes, N (inner i p.id) m
  marker : ∀ {i n}, N i n → h.registry.find? n.name = some .marker →
    ∀ exec : κ → Node → Run Flow,
      (∀ j m, N j m → Settles F (I j) (Allows P) fun k => exec k m) →
        Settles F (I i) (Allows P) fun k => own (exec k) n

/-- Looking for a stored response, where that is done, settles. -/
def ConsultSettles (h : Host) (F : Filter κ) (P : Failure → Prop) (I : ι → State → Prop)
    (stored : κ → String → Nat → Option StoredResponse) : Prop :=
  ∀ i d s, I i s → s.output.batch = false →
    SettlesFrom F (I i) (Allows P) (fun k => consultCache (h.storing (stored k)) d) s

/-- What a stored response changes is the settings and the journal, and those alone. -/
theorem consultSettles_of_stable
    (houtput : ∀ {i s}, I i s → ∀ o, I i { s with output := o })
    (hreplayed : ∀ {i s}, I i s → ∀ id, I i { s with journal := .replayed id :: s.journal }) :
    ConsultSettles h F P I fun _ => h.stored := by
  intro i d s hs _
  have hkept : Allows P (consultCache h d s).1 ∧ I i (consultCache h d s).2 := by
    rw [consultCache_apply]
    cases h.stored d.id d.seconds with
    | some hit => exact ⟨allows_ok P _, houtput (hreplayed hs d.id) _⟩
    | none => exact ⟨allows_ok P _, houtput hs _⟩
  exact ⟨_, _, .of_forall fun _ => rfl, hkept.1, hkept.2⟩

variable (hI : Invariant h P I inner) (hconsult : ConsultSettles h F P I stored)

include hI hconsult

theorem cache_settles (i : ι) (n : Node) :
    Settles F (I i) (Allows P) fun k => Run.cache (h.storing (stored k)) n := by
  intro s hs
  cases hbatch : s.output.batch with
  | true =>
    have hskip : ∀ k, Run.cache (h.storing (stored k)) n s = (.ok .next, s) := by
      intro k
      rw [cache_apply, if_pos hbatch]
    exact ⟨_, s, .of_forall hskip, allows_ok P _, hs⟩
  | false =>
    have hsingle : ¬ s.output.batch = true := by simp [hbatch]
    cases hd : h.directive n s.scope with
    | error e =>
      have hask : ∀ k, Run.cache (h.storing (stored k)) n s = (.error (.error e), s) := by
        intro k
        have hd' : (h.storing (stored k)).directive n s.scope = .error e := hd
        rw [cache_apply, if_neg hsingle, hd']
      have hmild : e.isFatal = false := mild_directive h n s.scope e hd
      exact ⟨_, s, .of_forall hask, allows_error (hI.mild hmild), hs⟩
    | ok d =>
      have hask : ∀ k, Run.cache (h.storing (stored k)) n s =
          consultCache (h.storing (stored k)) d s := by
        intro k
        have hd' : (h.storing (stored k)).directive n s.scope = .ok d := hd
        rw [cache_apply, if_neg hsingle, hd']
      exact (hconsult i d s hs hbatch).congr (.of_forall hask)

/-- With a fixed amount of fuel every node that may be met settles. -/
theorem executeWith_settles {N : ι → Node → Prop} (hN : Closed h F P I inner own N)
    (hP : P .outOfFuel) (fuel : Nat) {i : ι} {n : Node} (hn : N i n) :
    Settles F (I i) (Allows P) fun k => executeWith own (h.storing (stored k)) fuel n := by
  induction fuel generalizing i n with
  | zero => exact .throw hP
  | succ fuel ih =>
    cases hfind : h.registry.find? n.name with
    | none =>
      exact hI.node (n := n) (.fail (hN.unknown hn hfind)) fun k s =>
        executeWith_unknown (h := h.storing (stored k)) hfind fuel s
    | some instr =>
      have hinstr : Settles F (I i) (Allows P) fun k => performWith own (h.storing (stored k))
          fuel (executeWith own (h.storing (stored k)) fuel) instr n := by
        by_cases hmarker : instr = .marker
        · subst hmarker
          exact hN.marker hn hfind _ fun j m hm => ih hm
        · simp only [performWith_of_ne hmarker]
          by_cases hcache : instr = .cache
          · subst hcache
            exact cache_settles hI hconsult i n
          · simp only [perform_storing h _ hcache]
            refine hI.perform hcache
              { children := fun hl m hm => ih (hN.children hn hfind hmarker hl m hm)
                branches := fun hs b hb m hm => ih (hN.branches hn (hs ▸ hfind) b hb m hm)
                select := fun hs => hN.select hn (hs ▸ hfind)
                programs := fun p hp _ m hm => ih (hN.programs hp m hm)
                bounded := fun _ => ⟨⟨fuel, rfl⟩, hP⟩ }
      exact hI.node (n := n) hinstr fun k s =>
        executeWith_known (h := h.storing (stored k)) hfind fuel s

/-- The nodes of a program settle, also if the first one is only asked for its wish. -/
theorem nodesWith_settles {i : ι} {exec : κ → Node → Run Flow} {nodes : List Node}
    (hnodes : ∀ m ∈ nodes, Settles F (I i) (Allows P) fun k => exec k m) :
    Settles F (I i) (Allows P) fun k => nodesWith (h.storing (stored k)) (exec k) nodes := by
  cases nodes with
  | nil => exact .sequence hnodes
  | cons first rest =>
    have hrest : Settles F (I i) (Allows P) fun k => sequence (exec k) rest :=
      .sequence fun m hm => hnodes m (List.mem_cons_of_mem first hm)
    intro s hs
    by_cases hleading : first.name = "cache" ∧ s.output.batch = false
    · cases hd : h.directive first s.scope with
      | error e =>
        have hrefused : ∀ k, nodesWith (h.storing (stored k)) (exec k) (first :: rest) s =
            (.error (.error e), s) := by
          intro k
          have hd' : (h.storing (stored k)).directive first s.scope = .error e := hd
          rw [nodesWith_cons, if_pos hleading, hd']
        have hmild : e.isFatal = false := mild_directive h first s.scope e hd
        exact ⟨_, s, .of_forall hrefused, allows_error (hI.mild hmild), hs⟩
      | ok d =>
        have hbehind : SettlesFrom F (I i) (Allows P)
            (fun k => behindCache (h.storing (stored k)) (exec k) rest d) s := by
          refine (hconsult i d s hs hleading.2).bind
            (fun failure hr => allows_error (hr failure rfl)) fun flow _ => ?_
          cases flow with
          | next => exact hrest
          | _ => exact .pure _
        refine hbehind.congr (.of_forall fun k => ?_)
        have hd' : (h.storing (stored k)).directive first s.scope = .ok d := hd
        rw [nodesWith_cons, if_pos hleading, hd']
    · refine (Settles.sequence hnodes s hs).congr (.of_forall fun k => ?_)
      rw [nodesWith_cons, if_neg hleading]

/-- A program settles if its nodes do. -/
theorem programWith_settles {i : ι} (exec : κ → Node → Run Flow)
    (hnodes : ∀ p, Findable h (I i) p → ∀ m ∈ p.nodes,
      Settles F (I i) (Allows P) fun k => exec k m) (id : String) :
    Settles F (I i) (Allows P) fun k => programWith (h.storing (stored k)) (exec k) id := by
  refine .bind (hI.load_settles id) (fun failure hr => ?_) fun loaded hloaded => ?_
  · obtain ⟨_, _, hok⟩ := hr
    contradiction
  · obtain ⟨s, hs, hsame⟩ := hloaded
    obtain rfl := Except.ok.inj hsame
    cases hp : (s.programs.load h.source h.registry id).1 with
    | error e => exact .fail (hI.unread hs hp)
    | ok p =>
      have hbase : Settles F (I i) (Allows P)
          fun _ => updateScope fun c => { c with base := some p.id } :=
        .const (fun _ _ => allows_ok P ()) fun t ht => hI.based ht (some p.id)
      exact .andThen hbase fun _ => nodesWith_settles hI hconsult (hnodes p ⟨s, id, hs, hp⟩)

end Runs

/-! ### Invariants without failures -/

section Kept

variable {h : Host} {ι κ : Type} {I : ι → State → Prop} {inner : ι → String → ι} {F : Filter κ}
  {stored : κ → String → Nat → Option StoredResponse}
  (hI : Invariant h (fun _ => True) I inner)
  (hconsult : ConsultSettles h F (fun _ => True) I stored)

include hI hconsult

/-- Every node settles, whatever is in it, if every failure is allowed. -/
theorem execute_settles (fuel : Nat) (i : ι) (n : Node) :
    Settles F (I i) (Allows fun _ => True) fun k => execute (h.storing (stored k)) fuel n := by
  have hall : Closed h F (fun _ => True) I inner .idle fun _ _ => True :=
    { unknown := fun _ _ => trivial
      children := fun _ _ _ _ _ _ => trivial
      branches := fun _ _ _ _ _ _ => trivial
      select := fun _ _ _ _ _ _ => trivial
      programs := fun _ _ _ => trivial
      marker := fun _ _ _ _ => .pure _ }
  simp only [← executeWith_idle]
  exact executeWith_settles hI hconsult hall trivial fuel trivial

theorem executeProgram_settles (fuel : Nat) (i : ι) (id : String) :
    Settles F (I i) (Allows fun _ => True)
      fun k => executeProgram (h.storing (stored k)) fuel id := by
  simp only [executeProgram_eq]
  exact programWith_settles hI hconsult _
    (fun _ _ m _ => execute_settles hI hconsult fuel i m) id

end Kept

end ActionTree
