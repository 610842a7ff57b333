import ActionTree.Proofs.Steady

/-!
# ActionTree.Proofs.Footprint

What a node leaves as it was, whatever is in it and however it ends.

1. sub-programs change the base and the depth of the scope, and loops its position; all
   of them put back what they changed;
2. what was queued for the client and written in front of the reply stays, and more may
   come behind it; whether the response is one of a batch does not change.

The base and the depth are steady, so nothing has to be said of loops.  The position is not:
a loop sets it in every round, and it is the same again only behind the loop.
-/

namespace ActionTree

open Run

/-! ## The program and the response -/

/-- The scope belongs to the same program at the same depth, and the response has only been
added to. -/
structure Anchored (s s' : State) : Prop where
  depth : s'.scope.depth = s.scope.depth
  base : s'.scope.base = s.scope.base
  batch : s'.output.batch = s.output.batch
  headers : s.output.headers <+: s'.output.headers
  written : s.output.written.toList <+: s'.output.written.toList

instance : Frame Anchored where
  refl _ := ⟨rfl, rfl, rfl, List.prefix_rfl, List.prefix_rfl⟩
  trans hst htu :=
    ⟨htu.depth.trans hst.depth, htu.base.trans hst.base, htu.batch.trans hst.batch,
      hst.headers.trans htu.headers, hst.written.trans htu.written⟩

/-- The scope and the response are told apart by nothing that anchors them. -/
theorem anchored_of_eq {s s' : State} (hscope : s'.scope = s.scope)
    (hbatch : s'.output.batch = s.output.batch) (hheaders : s'.output.headers = s.output.headers)
    (hwritten : s'.output.written = s.output.written) : Anchored s s' where
  depth := by rw [hscope]
  base := by rw [hscope]
  batch := hbatch
  headers := by rw [hheaders]
  written := by rw [hwritten]

namespace Run

/-- Looking for a stored response adds nothing to the response. -/
theorem cache_anchored (h : Host) (n : Node) : Keeps Anchored (cache h n) := by
  intro s
  rw [cache_apply]
  split
  · exact Frame.refl s
  · cases h.directive n s.scope with
    | error e => exact Frame.refl s
    | ok d =>
      dsimp only
      rw [consultCache_apply]
      cases h.stored d.id d.seconds with
      | some hit => exact anchored_of_eq rfl rfl rfl rfl
      | none => exact anchored_of_eq rfl rfl rfl rfl

end Run

theorem steady_anchored (h : Host) : Steady h Anchored where
  leaf hl := ⟨hl.scope.depth, hl.scope.base, hl.batch, hl.headers, hl.written⟩
  loads hl := by
    obtain ⟨_, rfl⟩ := hl
    exact anchored_of_eq rfl rfl rfl rfl
  record _ _ _ := anchored_of_eq rfl rfl rfl rfl
  cache {n} hi fuel s := by
    have hcache := cache_anchored h n (beginning n s)
    rw [execute_known hi]
    exact ⟨hcache.depth, hcache.base, hcache.batch, hcache.headers, hcache.written⟩
  place _ _ _ := ⟨rfl, rfl, rfl, List.prefix_rfl, List.prefix_rfl⟩
  shared {s t inner id} hc hrun := by
    obtain ⟨-, rfl⟩ := Context.enter?_eq_some.mp hc
    have hdepth : t.scope.depth = s.scope.depth + 1 := hrun.depth
    refine ⟨?_, rfl, hrun.batch, hrun.headers, hrun.written⟩
    rw [Context.leave, hdepth, Nat.add_sub_cancel]
  isolated _ hrun := ⟨rfl, rfl, hrun.batch, hrun.headers, hrun.written⟩

/-! ## The position -/

/-- The position is the same. -/
def SameIndex (s s' : State) : Prop := s'.scope.index = s.scope.index

instance : Frame SameIndex where
  refl _ := rfl
  trans hst htu := htu.trans hst

namespace Run

/-- A traversal puts the position back before it writes its list. -/
theorem traverse_sameIndex (h : Host) (exec : Node → Run Flow) (n : Node) :
    Keeps SameIndex (traverse h exec n) := by
  intro s
  cases ht : h.traversal n s.scope with
  | error e =>
    rw [traverse, bind_apply, ask_apply, ht]
    exact Frame.refl s
  | ok t =>
    obtain ⟨last, visited, u, -, hsame, hrun⟩ := traverse_apply h exec n ht
    rw [hrun]
    dsimp only
    split
    · exact hsame.2
    · exact (u.scope.stays_set t.source _).index.trans hsame.2

/-- A loop puts the position back, whatever is in it. -/
theorem perform_sameIndex {i : Instruction} (hi : i.isLoop = true) (h : Host)
    (exec : Node → Run Flow) (fuel : Nat) (n : Node) :
    Keeps SameIndex (perform h fuel exec i n) := by
  cases i with
  | loop => exact (loop_sameForm h fuel exec n).mono And.right
  | traverse => exact traverse_sameIndex h exec n
  | stackLoop => exact (stackLoop_sameForm h fuel exec n).mono And.right
  | reader => exact (reader_sameForm h exec n).mono And.right
  | _ => contradiction

end Run

theorem lasting_sameIndex (h : Host) : Lasting h SameIndex where
  leaf hl := hl.scope.index
  loads hl := by
    obtain ⟨_, rfl⟩ := hl
    rfl
  record _ _ _ := rfl
  cache {n} hi fuel s := by
    rw [execute_known hi]
    exact congrArg Context.index (cache_scope h n (beginning n s))
  loop hi _ fuel n := perform_sameIndex hi h _ fuel n
  shared hc hrun := by
    obtain ⟨-, rfl⟩ := Context.enter?_eq_some.mp hc
    exact hrun
  isolated _ _ := rfl

/-! ## Whole nodes -/

/-- What a node that was begun in one state and has ended in another leaves as it was. -/
structure Footprint (s s' : State) : Prop where
  depth : s'.scope.depth = s.scope.depth
  base : s'.scope.base = s.scope.base
  index : s'.scope.index = s.scope.index
  batch : s'.output.batch = s.output.batch
  /-- Header lines are added behind those that were queued. -/
  headers : ∃ more, s'.output.headers = s.output.headers ++ more
  /-- Text is added behind what was written. -/
  written : ∃ more, s'.output.written = s.output.written ++ more

namespace Run

/-- **A node leaves the place of the program and the response as they were.**  Whatever
instruction it has, whatever programs it runs and however it ends, the depth, the base and
the position of the scope are those from before it, and what was queued and written before
is still there, with nothing in between. -/
theorem node_keeps_place_and_output (h : Host) (fuel : Nat) (n : Node) (s : State) :
    Footprint s (execute h fuel n s).2 := by
  have hanchored := (steady_anchored h).execute_keeps fuel n s
  have hindex := (lasting_sameIndex h).execute_keeps fuel n s
  obtain ⟨lines, hlines⟩ := hanchored.headers
  obtain ⟨text, htext⟩ := hanchored.written
  refine ⟨hanchored.depth, hanchored.base, hindex, hanchored.batch, ⟨lines, hlines.symm⟩,
    String.ofList text, ?_⟩
  rw [← String.toList_inj, String.toList_append, String.toList_ofList, htext]

end Run

end ActionTree
