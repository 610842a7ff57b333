import ActionTree.Proofs.Invariant
import ActionTree.Proofs.ProgramCache
import Mathlib.Order.Filter.AtTopBot.Basic

/-!
# ActionTree.Proofs.Termination

Programs without open-ended loops terminate.

1. a loop is *open-ended* if it goes over a stack, or has a mere condition; a node is
   *bounded* if no loop in it is open-ended, however deep it stands;
2. with enough fuel a bounded node comes to an end, and to the same one with more fuel, as
   long as every program that can be loaded is bounded (`settles_of_bounded`).

A program may be found by any name that is computed while it runs, so the nodes that are run
are no part of one tree.  What goes down with every program that is entered is how many more
may be opened: the induction is on that number, and within it on the node.
-/

namespace ActionTree

open Run Filter

/-! ## Bounded nodes -/

/-- A loop that nothing bounds: over a stack, or with a mere condition. -/
def Node.isOpenEnded (n : Node) : Bool :=
  n.name == "stack-loop" || n.name == "loop" && !(n.hasAttr "to" || n.hasAttr "count")

/-- No loop in a node is open-ended, however deep it stands. -/
inductive Node.Bounded : Node → Prop where
  | intro {n : Node} (self : n.isOpenEnded = false) (children : ∀ m ∈ n.children, Bounded m) :
    Bounded n

/-- All programs that can be loaded are bounded. -/
def BoundedPrograms (h : Host) (c : ProgramCache) : Prop :=
  ∀ id p, (c.load h.source h.registry id).1 = .ok p → ∀ n ∈ p.nodes, n.Bounded

/-- With nothing kept, the programs that can be loaded are those of the source. -/
theorem boundedPrograms_of_source {h : Host}
    (hsource : ∀ id nodes, h.source.nodes id = .ok nodes → ∀ n ∈ nodes, n.Bounded) :
    BoundedPrograms h [] := by
  intro id p hp
  obtain ⟨e, hload⟩ | ⟨stamp, q, -, hcurrent, -⟩ | ⟨stamp, q, -, hread, hload⟩ :=
    ProgramCache.load_cases [] h.source h.registry id
  · rw [hload] at hp
    contradiction
  · contradiction
  · rw [hload] at hp
    obtain rfl : q = p := Except.ok.inj hp
    obtain ⟨nodes, hnodes, -, rfl⟩ := ProgramCache.readFresh_eq_ok.mp hread
    exact hsource id nodes hnodes

/-- Loading a program changes nothing about what can be loaded. -/
theorem BoundedPrograms.load {h : Host} {c : ProgramCache} (hc : BoundedPrograms h c)
    (id : String) : BoundedPrograms h (c.load h.source h.registry id).2 := by
  intro key p hp
  rw [ProgramCache.load_load] at hp
  exact hc key p hp

namespace Registry

/-- A name is that of a marker, or of a built-in instruction. -/
theorem find?_eq_some {r : Registry} {name : String} {i : Instruction}
    (hi : r.find? name = some i) : i = .marker ∨ (name, i) ∈ Instruction.builtin := by
  unfold find? at hi
  split at hi
  · exact .inl (Option.some.inj hi).symm
  · obtain ⟨⟨key, j⟩, hfound, rfl⟩ := Option.map_eq_some_iff.mp hi
    have hkey : key = name := by simpa using List.find?_some hfound
    exact .inr (hkey ▸ List.mem_of_find?_eq_some hfound)

/-- The open-ended instructions are known by their names. -/
theorem isOpenEnded_of_find? {r : Registry} {n : Node} {i : Instruction}
    (hi : r.find? n.name = some i) (hopen : i.isOpenEnded n) : n.isOpenEnded = true := by
  have hname := find?_eq_some hi
  obtain rfl | ⟨rfl, hbound⟩ := hopen
  · have hstack : n.name = "stack-loop" := by simpa [Instruction.builtin] using hname
    simp [Node.isOpenEnded, hstack]
  · have hloop : n.name = "loop" := by simpa [Instruction.builtin] using hname
    simp [Node.isOpenEnded, hloop, hbound]

end Registry

/-! ## Fuel -/

namespace Run

/-- One unit of fuel more or less makes no difference in the long run. -/
theorem Settles.of_succ {α : Type} {I : State → Prop} {Q : Except Failure α → Prop}
    {x : Nat → Run α} (hx : Settles atTop I Q fun fuel => x (fuel + 1)) :
    Settles atTop I Q x := by
  intro s hs
  obtain ⟨result, t, hend, hresult, ht⟩ := hx s hs
  obtain ⟨enough, henough⟩ := eventually_atTop.mp hend
  refine ⟨result, t, eventually_atTop.mpr ⟨enough + 1, fun fuel hfuel => ?_⟩, hresult, ht⟩
  obtain ⟨fuel, rfl⟩ : ∃ less, fuel = less + 1 := ⟨fuel - 1, by omega⟩
  exact henough fuel (by omega)

/-- The states with so many sub-programs open, from which only bounded programs are found. -/
def OpenAt (h : Host) (depth : Nat) (s : State) : Prop :=
  s.scope.depth = depth ∧ BoundedPrograms h s.programs

theorem openAt_invariant (h : Host) :
    Invariant h (· ≠ .outOfFuel) (OpenAt h) fun depth _ => depth + 1 where
  mild _ := nofun
  leaf {depth s t} hl hs := by
    refine ⟨hl.scope.depth.trans hs.1, ?_⟩
    rw [hl.programs]
    exact hs.2
  place hs _ _ := hs
  based hs _ := hs
  load hs id := ⟨hs.1, hs.2.load id⟩
  unread _ _ := nofun
  tooDeep _ _ := nofun
  began hs _ := hs
  ended hs _ _ := hs
  opened hs _ _ hc _ := ⟨hc.trans (congrArg (· + 1) hs.1), hs.2⟩
  closed {depth s t id} hs ht c hc := by
    have hs' := hs.1
    have ht' := ht.1
    exact ⟨by dsimp only; omega, ht.2⟩

/-- What a node settles by: its children, the children of its branches, and the programs that
are found, which have one sub-program less to open. -/
theorem settles_of_parts {h : Host} {depth : Nat} {n : Node} (hself : n.isOpenEnded = false)
    (hchildren : ∀ m ∈ n.children,
      Settles atTop (OpenAt h depth) (Allows (· ≠ .outOfFuel)) fun fuel => execute h fuel m)
    (hbranches : ∀ b ∈ n.children, ∀ m ∈ b.children,
      Settles atTop (OpenAt h depth) (Allows (· ≠ .outOfFuel)) fun fuel => execute h fuel m)
    (hprograms : depth < h.config.maxCallDepth → ∀ m, m.Bounded →
      Settles atTop (OpenAt h (depth + 1)) (Allows (· ≠ .outOfFuel)) fun fuel =>
        execute h fuel m) :
    Settles atTop (OpenAt h depth) (Allows (· ≠ .outOfFuel)) fun fuel => execute h fuel n := by
  have hI := openAt_invariant h
  refine .of_succ ?_
  cases hfind : h.registry.find? n.name with
  | none => exact hI.node (n := n) (.fail nofun) fun fuel s => execute_unknown hfind fuel s
  | some i =>
    refine hI.node (n := n) ?_ fun fuel s => execute_known hfind fuel s
    by_cases hcache : i = .cache
    · subst hcache
      have hconsult : ConsultSettles h atTop (· ≠ .outOfFuel) (OpenAt h)
          fun _ : Nat => h.stored :=
        consultSettles_of_stable (fun hs _ => hs) fun hs _ => hs
      exact cache_settles hI hconsult depth n
    · refine hI.perform hcache
        { children := fun _ => hchildren
          branches := fun _ => hbranches
          select := nofun
          programs := fun p hfound hroom m hm => ?_
          bounded := fun hopen => ?_ }
      · obtain ⟨s, id, hs, hp⟩ := hfound
        obtain ⟨t, ht, hroom⟩ := hroom
        exact hprograms (ht.1 ▸ hroom) m (hs.2 id p hp m hm)
      · have hbad := Registry.isOpenEnded_of_find? hfind hopen
        rw [hself] at hbad
        contradiction

/-- **Bounded nodes settle.**  The outer induction is on how many sub-programs may still be
opened, the inner one on the node. -/
theorem settles_of_bounded (h : Host) {depth : Nat} {n : Node} (hn : n.Bounded) :
    Settles atTop (OpenAt h depth) (Allows (· ≠ .outOfFuel)) fun fuel => execute h fuel n := by
  induction hroom : h.config.maxCallDepth - depth using Nat.strong_induction_on
    generalizing depth n with
  | _ room ihRoom =>
    have hprograms (hmore : depth < h.config.maxCallDepth) (m : Node) (hm : m.Bounded) :=
      ihRoom (h.config.maxCallDepth - (depth + 1)) (by omega) hm rfl
    -- a switch executes the children of its children, so both are carried along
    have hboth : Settles atTop (OpenAt h depth) (Allows (· ≠ .outOfFuel))
        (fun fuel => execute h fuel n) ∧ ∀ m ∈ n.children,
          Settles atTop (OpenAt h depth) (Allows (· ≠ .outOfFuel))
            fun fuel => execute h fuel m := by
      clear hroom
      induction hn with
      | intro hself _ ih =>
        have hchildren := fun m hm => (ih m hm).1
        exact ⟨settles_of_parts hself hchildren (fun b hb => (ih b hb).2) hprograms, hchildren⟩
    exact hboth.1

/-- **Programs without open-ended loops terminate.**  From any state, if neither the nodes
nor any program that can be loaded has an open-ended loop in it, the nodes come to an end
with enough fuel, and to that same end with any more. -/
theorem bounded_nodes_terminate (h : Host) (nodes : List Node) (s : State)
    (hnodes : ∀ n ∈ nodes, n.Bounded) (hprograms : BoundedPrograms h s.programs) :
    ∃ result t, result ≠ .error .outOfFuel ∧
      ∃ enough, ∀ fuel, enough ≤ fuel → executeAll h fuel nodes s = (result, t) := by
  have hall : Settles atTop (OpenAt h s.scope.depth) (Allows (· ≠ .outOfFuel))
      fun fuel => executeAll h fuel nodes :=
    .sequence fun n hn => settles_of_bounded h (hnodes n hn)
  obtain ⟨result, t, hend, hresult, -⟩ := hall s ⟨rfl, hprograms⟩
  refine ⟨result, t, fun hout => hresult .outOfFuel hout rfl, ?_⟩
  exact eventually_atTop.mp hend

/-- A program that runs itself twice in every round: in a loop whose bound is taken from the
request, for every item of a list that the round makes longer. -/
def againProgram : List Node :=
  [{ name := "loop", attributes := [("count", "{times}")], children :=
      [{ name := "traverse", attributes := [("source", "items"), ("update", "value")], children :=
          [{ name := "push", attributes := [("ref", "items"), ("value", "more")] },
           { name := "block", attributes := [("inhibit", "1")], children :=
              [{ name := "evaluate", attributes := [("src", "again")] },
               { name := "call", attributes := [("src", "again"), ("pass", "times")] }] }] }] }]

/-- A host with that program alone. -/
def againHost : Host := Host.ofLibrary (Library.insert {} "again" againProgram)

/-- A list of three items, and a request for five rounds. -/
def againState : State :=
  State.ofScope
    { fields := [("items", .list [.text "a", .text "b", .text "c"])],
      form := [("times", .text "5")] }

theorem againProgram_bounded : ∀ n ∈ againProgram, n.Bounded := by
  have hleaf (n : Node) (hself : n.isOpenEnded = false) (hnone : n.children = []) : n.Bounded :=
    .intro hself (by simp [hnone])
  have hblock (n m k : Node) (hself : n.isOpenEnded = false) (hpair : n.children = [m, k])
      (hm : m.Bounded) (hk : k.Bounded) : n.Bounded := .intro hself (by simp [hpair, hm, hk])
  have hone (n m : Node) (hself : n.isOpenEnded = false) (hsingle : n.children = [m])
      (hm : m.Bounded) : n.Bounded := .intro hself (by simp [hsingle, hm])
  simp only [againProgram, List.forall_mem_singleton]
  refine hone _ _ rfl rfl (hblock _ _ _ rfl rfl (hleaf _ rfl rfl) ?_)
  exact hblock _ _ _ rfl rfl (hleaf _ rfl rfl) (hleaf _ rfl rfl)

theorem againHost_bounded : BoundedPrograms againHost [] := by
  refine boundedPrograms_of_source fun id nodes hnodes => ?_
  have hfound : (Library.insert {} "again" againProgram).source.nodes id = .ok nodes := hnodes
  rw [Library.nodes_insert] at hfound
  split at hfound
  · obtain rfl : againProgram = nodes := Except.ok.inj hfound
    exact againProgram_bounded
  · contradiction

theorem bounded_nodes_terminate_again :
    (∀ n ∈ againProgram, n.Bounded) ∧ BoundedPrograms againHost againState.programs ∧
      ∃ result t, result ≠ .error .outOfFuel ∧
        ∃ enough, ∀ fuel, enough ≤ fuel →
          executeAll againHost fuel againProgram againState = (result, t) :=
  ⟨againProgram_bounded, againHost_bounded,
    bounded_nodes_terminate againHost againProgram againState againProgram_bounded
      againHost_bounded⟩

end Run

end ActionTree
