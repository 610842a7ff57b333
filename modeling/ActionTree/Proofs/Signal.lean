import ActionTree.Proofs.Cycle
import ActionTree.Proofs.Footprint
import ActionTree.Proofs.Nesting

/-!
# ActionTree.Proofs.Signal

Where signals to loops come from, and how far they go.

1. blocks, switches and evaluated programs *open* nodes, and come to the flow that those come
   to; so does what stands around them in turn, up to the nodes that were begun with
   (`Reaches`, `Reaches.passes`);
2. a signal comes from a `break` or a `continue` that is reached in this way, for loops and
   calls let none out and no other instruction has one to give (`reached_of_signal`);
3. in nodes all of whose signals stand in loops nothing of the kind is reached
   (`Sheltered.not_reached`).

A loop is never reached through, so the loop that a signal meets is the innermost one.
-/

namespace ActionTree

open Run

/-! ## Signals -/

/-- A signal to a loop. -/
def Flow.Signals (flow : Flow) : Prop := flow = .skip ∨ flow = .leave

theorem Flow.Signals.not_leavesLoop {flow : Flow} (hs : flow.Signals) : ¬ flow.LeavesLoop := by
  rintro ⟨hskip, hleave⟩
  exact hs.elim hskip hleave

theorem Flow.leavesLoop_of_not_signals {flow : Flow} (hs : ¬ flow.Signals) : flow.LeavesLoop :=
  ⟨fun hskip => hs (.inl hskip), fun hleave => hs (.inr hleave)⟩

theorem Flow.Signals.ne_next {flow : Flow} (hs : flow.Signals) : flow ≠ .next := by
  rintro rfl
  exact hs.not_leavesLoop leavesLoop_next

/-- The signal that an instruction may give of its own. -/
def Instruction.signal? : Instruction → Option Flow
  | skip => some .skip
  | leave => some .leave
  | _ => none

/-- Whether signals may come from an instruction: of its own, or from a program that runs in
its place. -/
def Instruction.maySignal (i : Instruction) : Bool := i.signal?.isSome || i == .evaluate

/-! ## Shelter -/

/-- A node stands in a list of nodes; the nodes around it are given, the outermost first. -/
inductive Within : List Node → List Node → Node → Prop where
  | here {nodes : List Node} {n : Node} (hn : n ∈ nodes) : Within nodes [] n
  | inside {nodes around : List Node} {n m : Node} (hn : n ∈ nodes)
      (hm : Within n.children around m) : Within nodes (n :: around) m

theorem Within.cons {nodes around : List Node} {n first : Node} (hn : Within nodes around n) :
    Within (first :: nodes) around n := by
  cases hn with
  | here hn => exact .here (List.mem_cons_of_mem first hn)
  | inside hn hm => exact .inside (List.mem_cons_of_mem first hn) hm

/-- Every node that signals may come from has a loop around it. -/
def Sheltered (h : Host) (nodes : List Node) : Prop :=
  ∀ around n i, Within nodes around n → h.registry.find? n.name = some i → i.maySignal = true →
    ∃ a ∈ around, ∃ j, h.registry.find? a.name = some j ∧ j.isLoop = true

section Shelter

variable {h : Host} {nodes : List Node} {n : Node}

/-- The name of a branch that fits is none of an instruction. -/
theorem Host.find?_of_fits {branch : Node} {subject : String} {c : Context} {fit : Bool}
    (hfit : h.fits branch subject c = .ok fit) {j : Instruction}
    (hj : h.registry.find? branch.name = some j) : j = .marker := by
  unfold Host.fits at hfit
  unfold Registry.find? at hj
  split at hj
  · exact (Option.some.inj hj).symm
  · split at hfit
    case h_8 => contradiction
    all_goals
      rename_i hname
      rw [hname] at hj
      contradiction

/-- The branch that is selected fits. -/
theorem Host.select_fits {subject : String} {c : Context} {branches : List Node} {branch : Node}
    (hb : h.select subject c branches = .ok (some branch)) :
    h.fits branch subject c = .ok true := by
  induction branches with
  | nil => cases hb
  | cons first rest ih =>
    rw [Host.select] at hb
    cases hfit : h.fits first subject c with
    | error e => simp [hfit] at hb
    | ok fit =>
      simp only [hfit] at hb
      cases fit with
      | true => obtain rfl := Option.some.inj (Except.ok.inj hb); exact hfit
      | false => exact ih hb

/-- No signal stands in the open. -/
theorem Sheltered.not_maySignal (hs : Sheltered h nodes) (hn : n ∈ nodes) {i : Instruction}
    (hi : h.registry.find? n.name = some i) : i.maySignal = false := by
  cases hsignal : i.maySignal with
  | false => rfl
  | true =>
    obtain ⟨a, ha, -⟩ := hs [] n i (.here hn) hi hsignal
    contradiction

/-- What stands in a node that is no loop is sheltered by what stands in it. -/
theorem Sheltered.children (hs : Sheltered h nodes) (hn : n ∈ nodes)
    (hloop : ∀ i, h.registry.find? n.name = some i → i.isLoop = false) :
    Sheltered h n.children := by
  intro around m i hm hi hsignal
  obtain ⟨a, ha, j, hj, hjloop⟩ := hs (n :: around) m i (.inside hn hm) hi hsignal
  cases ha with
  | head =>
    rw [hloop j hj] at hjloop
    contradiction
  | tail _ ha => exact ⟨a, ha, j, hj, hjloop⟩

end Shelter

/-! ## Passing on -/

/-- What has happened between a state and a later one if nothing happened but that all that
was open was left with a flow, the sub-programs of another state among it. -/
structure Unwound (flow : Flow) (s u z : State) : Prop where
  scope : z.scope = { u.scope with base := s.scope.base, depth := s.scope.depth }
  output : z.output = u.output
  programs : z.programs = u.programs
  journal : ∃ later, z.journal = later ++ u.journal ∧ Unwinds (.ok flow) later

/-- Nothing at all has happened. -/
theorem Unwound.refl (flow : Flow) {s u : State} (hs : Anchored s u) : Unwound flow s u u where
  scope := by rw [← hs.base, ← hs.depth]
  output := rfl
  programs := rfl
  journal := ⟨[], rfl, unwinds_nil _⟩

theorem Unwound.trans {flow : Flow} {s t u v z : State} (huv : Unwound flow t u v)
    (hvz : Unwound flow s v z) : Unwound flow s u z := by
  obtain ⟨older, hv, holder⟩ := huv.journal
  obtain ⟨newer, hz, hnewer⟩ := hvz.journal
  refine ⟨?_, hvz.output.trans huv.output, hvz.programs.trans huv.programs, newer ++ older, ?_,
    unwinds_append hnewer holder⟩
  · rw [hvz.scope, huv.scope]
  · rw [hz, hv, List.append_assoc]

/-- It is the place of the state at the outside that counts. -/
theorem Unwound.of_anchored {flow : Flow} {s t u z : State} (hs : Anchored s t)
    (hz : Unwound flow t u z) : Unwound flow s u z :=
  ⟨by rw [hz.scope, hs.base, hs.depth], hz.output, hz.programs, hz.journal⟩

namespace Run

variable {h : Host} {n : Node} {s t : State} {nodes : List Node} {fuel : Nat} {flow : Flow}

/-- A node opens nodes that begin in a state: if they come to a flow, so does it. -/
inductive Opens (h : Host) (n : Node) (s : State) : List Node → State → Prop where
  | block (hi : h.registry.find? n.name = some .block) (hc : h.enters n s.scope = .ok true) :
      Opens h n s n.children (beginning n s)
  | switch {subject : Option String} {branch : Node}
      (hi : h.registry.find? n.name = some .switch)
      (hs : h.attr? n "subject" s.scope = .ok subject)
      (hb : h.select (subject.getD "") s.scope n.children = .ok (some branch)) :
      Opens h n s branch.children (beginning n s)
  | evaluate {p : Program} {t : State} (hi : h.registry.find? n.name = some .evaluate)
      (ht : target h n (beginning n s) = (.ok (.ok p), t))
      (hroom : t.scope.depth < h.config.maxCallDepth) :
      Opens h n s p.nodes
        (t.entered p { t.scope with depth := t.scope.depth + 1, base := some p.id })

theorem executeAll_anchored (fuel : Nat) (nodes : List Node) (s : State) :
    Anchored s (executeAll h fuel nodes s).2 :=
  Keeps.sequence ((steady_anchored h).execute_keeps fuel) nodes s

/-- A node comes to the flow that the nodes it opens come to. -/
theorem Opens.passes (ho : Opens h n s nodes t) {u : State}
    (hrun : executeAll h fuel nodes t = (.ok flow, u)) :
    ∃ z, execute h (fuel + 1) n s = (.ok flow, z) ∧ Unwound flow s u z := by
  have hanchored : Anchored t u := by
    have hall := executeAll_anchored (h := h) fuel nodes t
    rwa [hrun] at hall
  have hended : Unwinds (.ok flow) [.ended n.name (.ok flow)] := by
    simp [Unwinds, Event.Leaves]
  cases ho with
  | block hi hc =>
    have hbase : u.scope.base = s.scope.base := hanchored.base
    have hdepth : u.scope.depth = s.scope.depth := hanchored.depth
    refine ⟨{ u with journal := .ended n.name (.ok flow) :: u.journal }, ?_, ?_, rfl, rfl,
      [.ended n.name (.ok flow)], rfl, hended⟩
    · rw [execute_known hi, perform, block_apply]
      simp only [beginning, hc]
      simp only [executeAll, beginning] at hrun
      rw [hrun]
    · rw [← hbase, ← hdepth]
  | @switch subject branch hi hs hb =>
    have hbase : u.scope.base = s.scope.base := hanchored.base
    have hdepth : u.scope.depth = s.scope.depth := hanchored.depth
    refine ⟨{ u with journal := .ended n.name (.ok flow) :: u.journal }, ?_, ?_, rfl, rfl,
      [.ended n.name (.ok flow)], rfl, hended⟩
    · rw [execute_known hi, perform, switch_apply]
      simp only [beginning, hs, hb]
      simp only [executeAll, beginning] at hrun
      rw [hrun]
    · rw [← hbase, ← hdepth]
  | @evaluate p t hi ht hroom =>
    obtain ⟨programs, rfl⟩ : Loads (beginning n s) t := by
      have hloads := target_loads h n (beginning n s)
      rwa [ht] at hloads
    have hdepth : u.scope.depth = s.scope.depth + 1 := hanchored.depth
    refine ⟨{ u with
        scope := { u.scope.leave with base := s.scope.base }
        journal := .ended n.name (.ok flow) :: .closed p.id :: u.journal }, ?_, ?_, rfl, rfl,
      [.ended n.name (.ok flow), .closed p.id], rfl, by simp [Unwinds, Event.Leaves]⟩
    · rw [execute_known hi, perform_evaluate ht, runShared_apply,
        Context.enter?_eq_some.mpr ⟨hroom, rfl⟩]
      rw [executeAll, State.entered] at hrun
      simp only [inside_apply, hrun]
      rfl
    · simp only [Context.leave, hdepth, Nat.add_sub_cancel]

/-- Among nodes that are begun in a state a node is executed, with so much fuel and in
another state, and nothing stands around it but nodes that open nodes. -/
inductive Reaches (h : Host) : Nat → List Node → State → Nat → Node → State → Prop where
  | head {fuel : Nat} {n : Node} {ns : List Node} {s : State} :
      Reaches h fuel (n :: ns) s fuel n s
  | tail {fuel inner : Nat} {n m : Node} {ns : List Node} {s t v : State}
      (hn : execute h fuel n s = (.ok .next, t)) (hm : Reaches h fuel ns t inner m v) :
      Reaches h fuel (n :: ns) s inner m v
  | within {fuel inner : Nat} {n m : Node} {ns nodes : List Node} {s t v : State}
      (hn : Opens h n s nodes t) (hm : Reaches h fuel nodes t inner m v) :
      Reaches h (fuel + 1) (n :: ns) s inner m v

/-- A flow that ends a sequence ends it at its first node. -/
theorem executeAll_of_ne_next (hflow : flow ≠ .next) {ns : List Node}
    (hrun : execute h fuel n s = (.ok flow, t)) :
    executeAll h fuel (n :: ns) s = (.ok flow, t) := by
  rw [executeAll, sequence, bind_apply, hrun]
  cases flow with
  | next => contradiction
  | _ => rfl

theorem executeAll_next {ns : List Node} (hrun : execute h fuel n s = (.ok .next, t)) :
    executeAll h fuel (n :: ns) s = executeAll h fuel ns t := by
  rw [executeAll, sequence, bind_apply, hrun]
  rfl

/-- **What is reached ends what reaches it.**  Whatever ends a sequence, and a node that is
reached comes to, the nodes that were begun with come to it, and nothing happens on the way. -/
theorem Reaches.passes {inner : Nat} {m : Node} {v w : State}
    (hm : Reaches h fuel nodes s inner m v) (hflow : flow ≠ .next)
    (hrun : execute h inner m v = (.ok flow, w)) :
    ∃ z, executeAll h fuel nodes s = (.ok flow, z) ∧ Unwound flow s w z := by
  induction hm with
  | @head fuel n ns s =>
    refine ⟨w, executeAll_of_ne_next hflow hrun, .refl flow ?_⟩
    have hanchored := (steady_anchored h).execute_keeps fuel n s
    rwa [hrun] at hanchored
  | @tail fuel inner n m ns s t v hn hm ih =>
    obtain ⟨z, hz, hunwound⟩ := ih hrun
    refine ⟨z, (executeAll_next hn).trans hz, hunwound.of_anchored ?_⟩
    have hanchored := (steady_anchored h).execute_keeps fuel n s
    rwa [hn] at hanchored
  | @within fuel inner n m ns nodes s t v hn hm ih =>
    obtain ⟨u, hu, hunwound⟩ := ih hrun
    obtain ⟨z, hz, hbehind⟩ := hn.passes hu
    exact ⟨z, executeAll_of_ne_next hflow hz, hunwound.trans hbehind⟩

/-! ## Where signals come from -/

theorem leavesLoop_stop : Flow.stop.LeavesLoop := ⟨Flow.noConfusion, Flow.noConfusion⟩

theorem leavesLoop_reply (r : Reply) : (Flow.reply r).LeavesLoop :=
  ⟨Flow.noConfusion, Flow.noConfusion⟩

/-- A program that is missing is no signal. -/
theorem target_leavesLoop (h : Host) (n : Node) :
    Returns (fun found => ∀ flow, found = .error flow → flow.LeavesLoop) (target h n) := by
  refine .after fun src => .after fun c => .after fun loaded => ?_
  split
  · exact .pure fun flow hflow => nomatch hflow
  · refine .after fun inhibited => ?_
    split
    · exact .pure fun flow hflow => Except.error.inj hflow ▸ leavesLoop_next
    · exact .pure fun flow hflow => Except.error.inj hflow ▸ leavesLoop_reply _
  · exact .fail _

/-- A call lets no signal out. -/
theorem passOn_leavesLoop (n : Node) (control : Bool) (flow : Flow) :
    Returns Flow.LeavesLoop (passOn n control flow) := by
  intro s out hout
  rw [passOn_apply] at hout
  obtain rfl := Except.ok.inj hout
  cases flow with
  | reply r =>
    cases control with
    | true => exact leavesLoop_reply r
    | false => exact leavesLoop_next
  | stop => exact leavesLoop_stop
  | next | skip | leave => exact leavesLoop_next

theorem call_leavesLoop (h : Host) (exec : Node → Run Flow) (n : Node) :
    Returns Flow.LeavesLoop (call h exec n) := by
  refine .bind (target_leavesLoop h n) fun found hfound => ?_
  cases found with
  | error flow => exact .pure (hfound flow rfl)
  | ok p =>
    exact .after fun control => .after fun shared => .after fun flow =>
      passOn_leavesLoop n control flow

theorem recover_leavesLoop (h : Host) (n : Node) (e : Error) :
    Returns Flow.LeavesLoop (recover h n e) := by
  refine .after fun inhibited => ?_
  split
  · exact .after fun _ => .pure leavesLoop_next
  · refine .after fun message => ?_
    split
    · exact .pure (leavesLoop_reply _)
    · exact .fail e

theorem cache_leavesLoop (h : Host) (n : Node) : Returns Flow.LeavesLoop (cache h n) := by
  refine .after fun o => ?_
  split
  · exact .pure leavesLoop_next
  · refine .after fun d => ?_
    unfold consultCache
    split
    · exact .after fun _ => .after fun _ => .pure leavesLoop_stop
    · exact .after fun _ => .pure leavesLoop_next

/-- An instruction without nodes further in gives the one signal that it has to give. -/
theorem leaf_signal (h : Host) (n : Node) {exec : Node → Run Flow} {i : Instruction}
    (hi : i.isLeaf = true) :
    Returns (fun flow => flow.Signals → i.signal? = some flow) (perform h fuel exec i n) := by
  have hquiet {x : Run Flow} (hx : Returns Flow.LeavesLoop x) :
      Returns (fun flow => flow.Signals → i.signal? = some flow) x :=
    fun s flow hflow hs => absurd (hx s flow hflow) hs.not_leavesLoop
  have hnext : Returns Flow.LeavesLoop (pure .next) := .pure leavesLoop_next
  have hsignal (own : Flow) (hown : own.Signals → i.signal? = some own) :
      Returns (fun flow => flow.Signals → i.signal? = some flow) (signal n own) := by
    refine .after fun holds => .pure fun hs => ?_
    cases holds with
    | true => exact hown hs
    | false => exact absurd rfl hs.ne_next
  cases i with
  | skip => exact hsignal .skip fun _ => rfl
  | leave => exact hsignal .leave fun _ => rfl
  | stop => exact hsignal .stop fun hs => absurd leavesLoop_stop hs.not_leavesLoop
  | assign => exact hquiet (.after fun _ => .after fun _ => .after fun _ => hnext)
  | unset =>
    exact hquiet (.after fun _ => .after fun _ => hnext)
  | push => exact hquiet (.after fun _ => .after fun _ => .after fun _ => hnext)
  | reply =>
    refine hquiet (.after fun payload => .after fun status => ?_)
    split
    · exact .pure (leavesLoop_reply _)
    · exact .after fun _ => .pure (leavesLoop_reply _)
  | fail => exact hquiet (.after fun _ => .after fun _ => .fail _)
  | scalar | assoc | query =>
    exact hquiet (.after fun _ => .after fun _ => .after fun _ => .after fun _ => hnext)
  | user => exact hquiet (.after fun _ => .after fun _ => hnext)
  | require =>
    refine hquiet (.after fun _ => ?_)
    split
    · exact hnext
    · exact .fail _
  | header | write | format | compress => exact hquiet (.after fun _ => .after fun _ => hnext)
  | log => exact hquiet (.after fun _ => .after fun _ => .after fun _ => hnext)
  | notModified =>
    refine hquiet (.after fun _ => .after fun _ => ?_)
    split
    · exact .after fun _ => .pure leavesLoop_stop
    · exact .after fun _ => hnext
  | marker => exact hquiet hnext
  | block | switch | loop | traverse | stackLoop | reader | evaluate | call | cache =>
    simp [Instruction.isLeaf] at hi

/-- A node that comes to a signal gives it of its own, or opens nodes that come to it. -/
theorem signal_cases {i : Instruction} (hi : h.registry.find? n.name = some i)
    (hrun : (execute h (fuel + 1) n s).1 = .ok flow) (hs : flow.Signals) :
    i.signal? = some flow ∨
      ∃ nodes t, Opens h n s nodes t ∧ (executeAll h fuel nodes t).1 = .ok flow := by
  rw [execute_known hi] at hrun
  change (perform h fuel (execute h fuel) i n (beginning n s)).1 = .ok flow at hrun
  have hquiet (hx : Returns Flow.LeavesLoop (perform h fuel (execute h fuel) i n)) : False :=
    hs.not_leavesLoop (hx _ flow hrun)
  cases i with
  | loop => exact (hquiet (loop_leavesLoop h fuel _ n)).elim
  | traverse => exact (hquiet (traverse_leavesLoop h _ n)).elim
  | stackLoop => exact (hquiet (stackLoop_leavesLoop h fuel _ n)).elim
  | reader => exact (hquiet (reader_leavesLoop h _ n)).elim
  | call => exact (hquiet (call_leavesLoop h _ n)).elim
  | cache => exact (hquiet (cache_leavesLoop h n)).elim
  | block =>
    right
    rw [perform, block_apply] at hrun
    cases hc : h.enters n s.scope with
    | error e =>
      rw [beginning, hc] at hrun
      contradiction
    | ok entered =>
      cases entered with
      | false =>
        rw [beginning, hc] at hrun
        exact absurd (Except.ok.inj hrun).symm hs.ne_next
      | true =>
        refine ⟨n.children, beginning n s, .block hi hc, ?_⟩
        rw [executeAll]
        simp only [beginning, hc] at hrun ⊢
        rcases hbody : sequence (execute h fuel) n.children
          { s with journal := .began n.name s.scope.depth :: s.journal } with
          ⟨(e | _) | own, u⟩
        · simp only [hbody] at hrun
          split at hrun
          · contradiction
          · exact absurd (recover_leavesLoop h n e _ flow hrun) hs.not_leavesLoop
        · rw [hbody] at hrun
          contradiction
        · rw [hbody] at hrun
          exact hrun
  | switch =>
    right
    rw [perform, switch_apply] at hrun
    cases hsubject : h.attr? n "subject" s.scope with
    | error e =>
      rw [beginning, hsubject] at hrun
      contradiction
    | ok subject =>
      rw [beginning, hsubject] at hrun
      dsimp only at hrun
      cases hb : h.select (subject.getD "") s.scope n.children with
      | error e =>
        rw [hb] at hrun
        contradiction
      | ok selected =>
        rw [hb] at hrun
        cases selected with
        | none => exact absurd (Except.ok.inj hrun).symm hs.ne_next
        | some branch => exact ⟨branch.children, beginning n s, .switch hi hsubject hb, hrun⟩
  | evaluate =>
    right
    have hfound := target_leavesLoop h n (beginning n s)
    rw [perform, Run.evaluate, bind_apply] at hrun
    rcases ht : target h n (beginning n s) with ⟨e | own | p, t⟩
    · rw [ht] at hrun
      contradiction
    · rw [ht] at hrun hfound
      obtain rfl := Except.ok.inj hrun
      exact absurd (hfound _ rfl _ rfl) hs.not_leavesLoop
    · rw [ht] at hrun
      dsimp only at hrun
      rw [runShared_apply] at hrun
      cases hc : t.scope.enter? h.config.maxCallDepth with
      | none =>
        rw [hc] at hrun
        contradiction
      | some inner =>
        obtain ⟨hroom, rfl⟩ := Context.enter?_eq_some.mp hc
        rw [hc] at hrun
        exact ⟨p.nodes, _, .evaluate hi ht hroom, hrun⟩
  | _ => exact .inl (leaf_signal h n rfl (beginning n s) flow hrun hs)

/-- **A signal has been given by a node that is reached.** -/
theorem reached_of_signal (hs : flow.Signals) (hrun : (executeAll h fuel nodes s).1 = .ok flow) :
    ∃ inner m v i, Reaches h fuel nodes s inner m v ∧ h.registry.find? m.name = some i ∧
      i.signal? = some flow ∧ (execute h inner m v).1 = .ok flow := by
  induction fuel generalizing nodes s with
  | zero =>
    cases nodes with
    | nil => exact absurd (Except.ok.inj hrun).symm hs.ne_next
    | cons n ns => cases hrun
  | succ fuel ih =>
    induction nodes generalizing s with
    | nil => exact absurd (Except.ok.inj hrun).symm hs.ne_next
    | cons n ns ihnodes =>
      rcases hn : execute h (fuel + 1) n s with ⟨e | first, t⟩
      · rw [executeAll, sequence, bind_apply, hn] at hrun
        contradiction
      · by_cases hnext : first = .next
        · subst hnext
          rw [executeAll_next hn] at hrun
          obtain ⟨inner, m, v, i, hm, hi, hsignal, hrunm⟩ := ihnodes hrun
          exact ⟨inner, m, v, i, .tail hn hm, hi, hsignal, hrunm⟩
        · rw [executeAll_of_ne_next hnext hn] at hrun
          obtain rfl := Except.ok.inj hrun
          cases hi : h.registry.find? n.name with
          | none =>
            rw [execute_unknown hi] at hn
            cases hn
          | some i =>
            have hfirst : (execute h (fuel + 1) n s).1 = .ok first := by rw [hn]
            obtain hsignal | ⟨inside, u, hopens, hinside⟩ := signal_cases hi hfirst hs
            · exact ⟨fuel + 1, n, s, i, .head, hi, hsignal, hfirst⟩
            · obtain ⟨inner, m, v, j, hm, hj, hsignal, hrunm⟩ := ih hinside
              exact ⟨inner, m, v, j, .within hopens hm, hj, hsignal, hrunm⟩

end Run

/-! ## Sheltered nodes -/

section Shelter

variable {h : Host} {nodes : List Node} {n : Node}

/-- What a sheltered node opens, which is no loop, is sheltered: an evaluated program would
not have to be, so there is none. -/
theorem Sheltered.opened (hs : Sheltered h nodes) (hn : n ∈ nodes) {s t : State}
    {inner : List Node} (ho : Opens h n s inner t) : Sheltered h inner := by
  cases ho with
  | block hi hc =>
    refine hs.children hn fun i hi' => ?_
    obtain rfl := Option.some.inj (hi.symm.trans hi')
    rfl
  | @switch subject branch hi hsubject hb =>
    have hchildren : Sheltered h n.children := by
      refine hs.children hn fun i hi' => ?_
      obtain rfl := Option.some.inj (hi.symm.trans hi')
      rfl
    refine hchildren.children (h.select_mem hb) fun i hi' => ?_
    obtain rfl := Host.find?_of_fits (Host.select_fits hb) hi'
    rfl
  | evaluate hi ht hroom => exact absurd (hs.not_maySignal hn hi) (by decide)

/-- Among sheltered nodes nothing is reached that gives a signal. -/
theorem Sheltered.not_reached (hnodes : Sheltered h nodes) {fuel inner : Nat} {s v : State}
    {m : Node} (hm : Reaches h fuel nodes s inner m v) {i : Instruction}
    (hi : h.registry.find? m.name = some i) : i.signal? = none := by
  induction hm with
  | head =>
    have hquiet := hnodes.not_maySignal List.mem_cons_self hi
    cases i with
    | skip | leave => contradiction
    | _ => rfl
  | tail hn hm ih => exact ih (fun around a j ha => hnodes around a j ha.cons) hi
  | within hn hm ih => exact ih (hnodes.opened List.mem_cons_self hn) hi

end Shelter

/-! ## How far signals go -/

namespace Run

variable {h : Host} {n : Node}

/-- The end of a node, put down. -/
def ending (n : Node) (out : Except Failure Flow × State) : Except Failure Flow × State :=
  (out.1, { out.2 with journal := .ended n.name out.1 :: out.2.journal })

/-- A call whose program comes to a signal goes on, and has only left the program. -/
theorem perform_call_signal {exec : Node → Run Flow} {p : Program} {c : Context} (fuel : Nat)
    {s t u : State} {flow : Flow} (ht : target h n s = (.ok (.ok p), t))
    (hc : h.entry .call n p t.scope = .ok c) (hroom : t.scope.depth < h.config.maxCallDepth)
    (hrun : sequence exec p.nodes (t.entered p c) = (.ok flow, u)) (hflow : flow.Signals) :
    ∃ scope, perform h fuel exec .call n s =
      (.ok .next, { u with scope := scope, journal := .closed p.id :: u.journal }) := by
  have hthrough (control : Bool) : flow.through control = .next := by
    obtain rfl | rfl := hflow <;> rfl
  rw [State.entered] at hrun
  obtain ⟨control, hcontrol, ⟨hshared, rfl⟩ | ⟨parameters, hshared, hparameters, rfl⟩⟩ :=
    entry_call hc
  · have henter : t.scope.enter? h.config.maxCallDepth =
        some { t.scope with depth := t.scope.depth + 1 } := Context.enter?_eq_some.mpr ⟨hroom, rfl⟩
    have hcallee : callee h exec n p true t = (.ok flow,
        { u with
          scope := { u.scope.leave with base := t.scope.base }
          journal := .closed p.id :: u.journal }) := by
      change runShared h exec p t = _
      rw [runShared_apply, henter]
      simp only [inside_apply, hrun]
    rw [perform_call ht hcontrol hshared, bind_apply, hcallee]
    dsimp only
    rw [passOn_apply, hthrough]
    exact ⟨_, rfl⟩
  · have henter : (t.scope.child parameters p.id).enter? h.config.maxCallDepth =
        some { t.scope.child parameters p.id with depth := t.scope.depth + 1 } :=
      Context.enter?_eq_some.mpr ⟨hroom, rfl⟩
    have hcallee : callee h exec n p false t = (.ok flow,
        { u with
          scope := t.scope.importFields (u.scope.exports h.config.exportMarker)
          journal := .closed p.id :: u.journal }) := by
      change runIsolated h exec n p t = _
      rw [runIsolated_apply, hparameters]
      simp only [henter, inside_apply, hrun]
    rw [perform_call ht hcontrol hshared, bind_apply, hcallee]
    dsimp only
    rw [passOn_apply, hthrough]
    exact ⟨_, rfl⟩

/-- **Signals stay in loops.**

1. Nodes come to no signal if every `break`, `continue` and `evaluate` among them has a loop
   around it, whatever the programs are that they call and evaluate.
2. A call comes to no signal.  One that is given in its program, outside all loops of that,
   has the call leave the program and go on behind itself, in whichever scope it ran.
3. A signal that is given outside all loops of what is evaluated, in however many programs and
   blocks and switches, is what the nodes come to around all that.  If these are the body of a
   loop that is in some round, the loop is over with a `break`, and comes to the next round
   with a `continue`; in between nothing happens.
4. Every loop is such rounds, from the first on. -/
theorem signals_stay_in_loops (h : Host) :
    (∀ nodes, Sheltered h nodes → ∀ fuel s flow, (executeAll h fuel nodes s).1 = .ok flow →
        flow.LeavesLoop) ∧
      (∀ n, h.registry.find? n.name = some .call → ∀ fuel s,
        (∀ flow, (execute h fuel n s).1 = .ok flow → flow.LeavesLoop) ∧
          ∀ p c t inner m v flow w, target h n (beginning n s) = (.ok (.ok p), t) →
            h.entry .call n p t.scope = .ok c → t.scope.depth < h.config.maxCallDepth →
            Reaches h fuel p.nodes (t.entered p c) inner m v →
            execute h inner m v = (.ok flow, w) → flow.Signals →
            ∃ z later, execute h (fuel + 1) n s = (.ok .next, z) ∧
              z.output = w.output ∧ z.programs = w.programs ∧
              z.journal = .ended n.name (.ok .next) :: .closed p.id :: later ++ w.journal ∧
              Unwinds (.ok flow) later) ∧
      (∀ fuel nodes s inner m v flow w, Reaches h fuel nodes s inner m v →
        execute h inner m v = (.ok flow, w) → flow.Signals →
        ∃ z, executeAll h fuel nodes s = (.ok flow, z) ∧ Unwound flow s w z ∧
          ∀ (feed : Feed) rounds position t c, feed position t.scope = .ok (some c) →
            s = { t with scope := c } →
            (flow = .leave →
              cycle feed (executeAll h fuel nodes) (rounds + 1) position t = (.ok .next, z)) ∧
            (flow = .skip →
              cycle feed (executeAll h fuel nodes) (rounds + 1) position t =
                cycle feed (executeAll h fuel nodes) rounds (position + 1) z)) ∧
      ∀ n i, h.registry.find? n.name = some i → i.isLoop = true → ∀ fuel s,
        CameTo i (ending n (match plan h fuel i n (beginning n s) with
          | (.ok p, t) => planned p (executeAll h fuel n.children) t
          | (.error e, t) => (.error e, t))) (execute h (fuel + 1) n s) := by
  refine ⟨fun nodes hnodes fuel s flow hrun => ?_, fun n hi fuel s => ⟨?_, ?_⟩, ?_, ?_⟩
  · refine Flow.leavesLoop_of_not_signals fun hflow => ?_
    obtain ⟨inner, m, v, i, hm, hi, hsignal, -⟩ := reached_of_signal hflow hrun
    rw [hnodes.not_reached hm hi] at hsignal
    contradiction
  · intro flow hrun
    cases fuel with
    | zero => contradiction
    | succ fuel =>
      rw [execute_known hi] at hrun
      exact call_leavesLoop h (execute h fuel) n _ flow hrun
  · intro p c t inner m v flow w ht hc hroom hm hrun hflow
    obtain ⟨u, hu, hunwound⟩ := hm.passes hflow.ne_next hrun
    obtain ⟨scope, hperform⟩ := perform_call_signal fuel ht hc hroom hu hflow
    obtain ⟨later, hjournal, hlater⟩ := hunwound.journal
    rw [execute_known hi, hperform]
    refine ⟨_, later, rfl, hunwound.output, hunwound.programs, ?_, hlater⟩
    rw [List.cons_append, List.cons_append, ← hjournal]
  · intro fuel nodes s inner m v flow w hm hrun hflow
    obtain ⟨z, hz, hunwound⟩ := hm.passes hflow.ne_next hrun
    refine ⟨z, hz, hunwound, fun feed rounds position t c hfeed hs => ⟨?_, ?_⟩⟩
    · rintro rfl
      exact cycle_leave hfeed (hs ▸ hz)
    · rintro rfl
      exact cycle_skip hfeed (hs ▸ hz)
  · intro n i hi hloop fuel s
    have hcame := perform_cycle h (execute h fuel) fuel n hloop (beginning n s)
    rw [execute_known hi]
    refine ⟨hcame.result, hcame.output, hcame.programs, ?_, hcame.scope⟩
    exact congrArg₂ (fun result journal => Event.ended n.name result :: journal) hcame.result
      hcame.journal

/-- A node that ends a loop. -/
def leavingBreak : Node := { name := "break" }

/-- That node in a block. -/
def leavingBlock : Node := { name := "block", children := [leavingBreak] }

/-- A host with a program that ends whatever loop it is evaluated in. -/
def leavingHost : Host := Host.ofLibrary (Library.insert {} "leaving" [leavingBlock])

/-- What the host finds under the name. -/
def leavingFound : Program := ⟨"leaving", [leavingBlock], .written 1⟩

/-- A node that evaluates the program. -/
def leavingNode : Node := { name := "evaluate", attributes := [("src", "leaving")] }

/-- A node that calls the program. -/
def leavingCall : Node := { name := "call", attributes := [("src", "leaving")] }

/-- Three rounds of the node that evaluates the program. -/
def leavingLoop : Node :=
  { name := "loop", attributes := [("count", "3")], children := [leavingNode] }

/-- The state of a node that has found the program. -/
def leavingState (n : Node) (c : Context) : State :=
  { beginning n (State.ofScope c) with programs := [("leaving", leavingFound)] }

theorem target_leavingNode :
    target leavingHost leavingNode (beginning leavingNode (State.ofScope { index := some 0 })) =
      (.ok (.ok leavingFound), leavingState leavingNode { index := some 0 }) := by
  cbv

theorem target_leavingCall :
    target leavingHost leavingCall (beginning leavingCall (State.ofScope {})) =
      (.ok (.ok leavingFound), leavingState leavingCall {}) := by
  cbv

/-- Whatever stands in the loop has it around itself. -/
theorem sheltered_leavingLoop : Sheltered leavingHost [leavingLoop] := by
  intro around n i hn hi hsignal
  cases hn with
  | here hn =>
    obtain rfl := List.mem_singleton.mp hn
    obtain rfl := Option.some.inj hi
    contradiction
  | inside hfirst hn =>
    obtain rfl := List.mem_singleton.mp hfirst
    exact ⟨leavingLoop, List.mem_cons_self, .loop, rfl, rfl⟩

theorem reaches_leavingBreak (s : State) :
    Reaches leavingHost 3 [leavingBlock] s 2 leavingBreak (beginning leavingBlock s) :=
  .within (.block rfl rfl) .head

theorem execute_leavingBreak (s : State) :
    execute leavingHost 2 leavingBreak s = (.ok .leave, (execute leavingHost 2 leavingBreak s).2) :=
  rfl

theorem signals_stay_in_loops_leaving :
    let h := leavingHost
    let s := State.ofScope {}
    let feed := Progression.feed ⟨0, 3, 1⟩ none
    (Sheltered h [leavingLoop] ∧
      ∀ flow, (executeAll h 5 [leavingLoop] s).1 = .ok flow → flow.LeavesLoop) ∧
    (∃ z, execute h 4 leavingCall s = (.ok .next, z)) ∧
    (feed 0 s.scope = .ok (some { index := some 0 }) ∧
      ∃ z, cycle feed (executeAll h 4 leavingLoop.children) 4 0 s = (.ok .next, z)) ∧
    CameTo .loop (ending leavingLoop (match plan h 4 .loop leavingLoop (beginning leavingLoop s) with
      | (.ok p, t) => planned p (executeAll h 4 leavingLoop.children) t
      | (.error e, t) => (.error e, t))) (execute h 5 leavingLoop s) := by
  intro h s feed
  obtain ⟨hquiet, hcalls, hpassed, hloops⟩ := signals_stay_in_loops h
  obtain ⟨z, later, hcall, -⟩ := (hcalls leavingCall rfl 3 s).2 _ _ _ _ _ _ _ _ target_leavingCall
    rfl (by decide) (reaches_leavingBreak _) (execute_leavingBreak _) (.inr rfl)
  have hreaches : Reaches h 4 leavingLoop.children (State.ofScope { index := some 0 }) _ _ _ :=
    .within (.evaluate rfl target_leavingNode (by decide)) (reaches_leavingBreak _)
  obtain ⟨u, -, -, hcycle⟩ := hpassed _ _ _ _ _ _ _ _ hreaches (execute_leavingBreak _) (.inr rfl)
  exact ⟨⟨sheltered_leavingLoop, hquiet _ sheltered_leavingLoop 5 s⟩, ⟨z, hcall⟩,
    ⟨rfl, u, (hcycle feed 3 0 s _ rfl rfl).1 rfl⟩, hloops leavingLoop .loop rfl rfl 4 s⟩

end Run

end ActionTree
