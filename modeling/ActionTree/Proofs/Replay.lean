import ActionTree.Engine
import ActionTree.Proofs.Interruption
import ActionTree.Proofs.Steady

/-!
# ActionTree.Proofs.Replay

A stored response that is found ends the program.

1. from one state to another either nothing is replayed, or the response to replay is
   in the end the one that was found for the newest id (`Replays`);
2. a replay is put down right before its node ends with a stop, and a stop is heeded:
   so there is one replay at most, nothing is begun behind it, and the program stops
   (`executeAll_ending`);
3. a program whose first node asks for a stored response does the same without
   beginning that node (`executeProgram_ending`);
4. nothing is replayed in a batch.
-/

namespace ActionTree

open Run

/-! ## States -/

/-- The id of the newest replay. -/
def Journal.replayed? (j : Journal) : Option String :=
  j.findSome? fun
    | .replayed id => some id
    | _ => none

namespace Journal

theorem replayed?_append (newer older : Journal) :
    replayed? (newer ++ older) = (replayed? newer).or (replayed? older) :=
  List.findSome?_append

theorem replayed?_eq_none {j : Journal} : j.replayed? = none ↔ ∀ id, .replayed id ∉ j := by
  rw [replayed?, List.findSome?_eq_none_iff]
  constructor
  · intro h id hmem
    exact nomatch h _ hmem
  · intro h e he
    split
    · next id => exact absurd he (h id)
    · rfl

theorem exists_of_replayed? {j : Journal} {id : String} (h : j.replayed? = some id) :
    ∃ later earlier, j = later ++ .replayed id :: earlier := by
  obtain ⟨later, e, earlier, rfl, he, -⟩ := List.findSome?_eq_some_iff.mp h
  refine ⟨later, earlier, ?_⟩
  split at he
  · rw [Option.some.inj he]
  · contradiction

/-- Every replay stands right before the end of a node with a stop. -/
def StopsAtReplays (j : Journal) : Prop :=
  ∀ later id earlier, j = later ++ .replayed id :: earlier →
    ∃ inner name, later = inner ++ [.ended name (.ok .stop)]

theorem stopsAtReplays_of_none {j : Journal} (h : ∀ id, .replayed id ∉ j) : StopsAtReplays j := by
  rintro later id earlier rfl
  exact absurd (List.mem_append_right _ List.mem_cons_self) (h id)

theorem StopsAtReplays.append {newer older : Journal} (hn : StopsAtReplays newer)
    (ho : StopsAtReplays older) : StopsAtReplays (newer ++ older) := by
  intro later id earlier hsplit
  rcases split_of_append hsplit with ⟨inner, hinner, -⟩ | ⟨inner, rfl, hinner⟩
  · exact hn later id inner hinner
  · obtain ⟨rest, name, rfl⟩ := ho inner id earlier hinner
    exact ⟨newer ++ rest, name, (List.append_assoc _ _ _).symm⟩

/-- A node that replays a stored response. -/
theorem stopsAtReplays_node (name id : String) (depth : Nat) :
    StopsAtReplays [.ended name (.ok .stop), .replayed id, .began name depth] := by
  intro later id' earlier hsplit
  rcases later with _ | ⟨e, _ | ⟨e', later⟩⟩
  · exact nomatch (List.cons.inj hsplit).1
  · obtain ⟨rfl, -⟩ := List.cons.inj hsplit
    exact ⟨[], name, rfl⟩
  · -- the node's beginning is no replay, and there is nothing before it
    have hbegan : [.began name depth] = later ++ .replayed id' :: earlier :=
      (List.cons.inj (List.cons.inj hsplit).2).2
    have hmem : Event.replayed id' ∈ later ++ .replayed id' :: earlier :=
      List.mem_append_right _ List.mem_cons_self
    rw [← hbegan, List.mem_singleton] at hmem
    contradiction

end Journal

/-- What is to be replayed, if the newest replay since the first of two states was that of
an id: the response that was found for it.  Else it is what it was. -/
def Answers (h : Host) (s t : State) : Option String → Prop
  | none => t.output.replay = s.output.replay
  | some id => s.output.batch = false ∧
      ∃ seconds r, h.stored id seconds = some r ∧ t.output.replay = some r

/-- What may be replayed from one state to another. -/
structure Replays (h : Host) (s t : State) : Prop where
  batch : t.output.batch = s.output.batch
  journal : ∃ new : Journal, t.journal = new ++ s.journal ∧ new.StopsAtReplays ∧
    Answers h s t new.replayed?

namespace Replays

variable {h : Host}

/-- Nothing is replayed. -/
theorem nothing {s t : State} (new : Journal) (hb : t.output.batch = s.output.batch)
    (hr : t.output.replay = s.output.replay) (hj : t.journal = new ++ s.journal)
    (hnew : ∀ id, .replayed id ∉ new) : Replays h s t := by
  refine ⟨hb, new, hj, Journal.stopsAtReplays_of_none hnew, ?_⟩
  rw [Journal.replayed?_eq_none.mpr hnew]
  exact hr

theorem same {s t : State} (ho : t.output = s.output) (hj : t.journal = s.journal) :
    Replays h s t :=
  nothing [] (congrArg Settings.batch ho) (congrArg Settings.replay ho) hj (by simp)

theorem trans {s t u : State} (hst : Replays h s t) (htu : Replays h t u) : Replays h s u := by
  obtain ⟨older, holder, hostops, hoanswers⟩ := hst.journal
  obtain ⟨newer, hnewer, hnstops, hnanswers⟩ := htu.journal
  refine ⟨htu.batch.trans hst.batch, newer ++ older, ?_, hnstops.append hostops, ?_⟩
  · rw [hnewer, holder, List.append_assoc]
  · rw [Journal.replayed?_append]
    cases hn : newer.replayed? with
    | some id =>
      rw [hn] at hnanswers
      exact ⟨hst.batch.symm.trans hnanswers.1, hnanswers.2⟩
    | none =>
      rw [hn] at hnanswers
      rw [Option.none_or]
      cases ho : older.replayed? with
      | some id =>
        rw [ho] at hoanswers
        obtain ⟨hb, seconds, r, hstored, hreplay⟩ := hoanswers
        exact ⟨hb, seconds, r, hstored, hnanswers.trans hreplay⟩
      | none =>
        rw [ho] at hoanswers
        exact hnanswers.trans hoanswers

end Replays

instance (h : Host) : Frame (Replays h) where
  refl _ := .same rfl rfl
  trans := .trans

/-! ## Nodes -/

/-- A node that may replay a stored response. -/
theorem cache_replays {h : Host} {n : Node} (hi : h.registry.find? n.name = some .cache)
    (fuel : Nat) (s : State) : Replays h s (execute h (fuel + 1) n s).2 := by
  rw [execute_known hi]
  change Replays h s { (cache h n (beginning n s)).2 with
    journal := .ended n.name (cache h n (beginning n s)).1 ::
      (cache h n (beginning n s)).2.journal }
  have hquiet : ∀ (result : Except Failure Flow) (o : Settings), o.batch = s.output.batch →
      o.replay = s.output.replay → Replays h s { beginning n s with
        output := o, journal := .ended n.name result :: (beginning n s).journal } :=
    fun result o hb hr =>
      .nothing [.ended n.name result, .began n.name s.scope.depth] hb hr rfl (by simp)
  rw [cache_apply]
  cases hb : (beginning n s).output.batch with
  | true => exact hquiet _ _ rfl rfl
  | false =>
    cases hd : h.directive n (beginning n s).scope with
    | error e => exact hquiet _ _ rfl rfl
    | ok d =>
      dsimp only
      rw [consultCache_apply]
      cases hr : h.stored d.id d.seconds with
      | none => exact hquiet _ _ rfl rfl
      | some r =>
        refine ⟨rfl, [.ended n.name (.ok .stop), .replayed d.id, .began n.name s.scope.depth], rfl,
          ?_, hb, d.seconds, r, hr, rfl⟩
        exact Journal.stopsAtReplays_node _ _ _

theorem steady_replays (h : Host) : Steady h (Replays h) where
  leaf hl := by
    obtain ⟨new, hnew, hremark⟩ := hl.journal
    exact .nothing new hl.batch hl.replay hnew fun id hid => nomatch hremark _ hid
  loads hl := by
    obtain ⟨_, rfl⟩ := hl
    exact .same rfl rfl
  record s e he := .nothing [e] rfl rfl rfl fun id hid => by
    rw [List.mem_singleton] at hid
    exact he id hid.symm
  cache hi fuel s := cache_replays hi fuel s
  place _ _ _ := .same rfl rfl
  shared _ hrun := ⟨hrun.batch, hrun.journal⟩
  isolated _ hrun := ⟨hrun.batch, hrun.journal⟩

/-! ## Programs -/

/-- Nothing was replayed so far. -/
structure Unreplayed (s : State) : Prop where
  journal : ∀ id, .replayed id ∉ s.journal
  replay : s.output.replay = none

/-- How a program ends, in a batch or not, as far as stored responses go: nothing is
replayed, or exactly one response is, and the program stops there. -/
inductive Ending (h : Host) (batch : Bool) (ending : Except Failure Flow × State) : Prop where
  | nothing (unreplayed : Unreplayed ending.2)
  | replay (id : String) (seconds : Nat) (r : StoredResponse) (later earlier : Journal)
      (single : batch = false) (stored : h.stored id seconds = some r)
      (journal : ending.2.journal = later ++ .replayed id :: earlier)
      (first : ∀ id, .replayed id ∉ earlier) (unwound : Unwinds (.ok .stop) later)
      (shown : ending.2.output.replay = some r) (result : ending.1 = .ok .stop)

namespace Run

variable (h : Host) (fuel : Nat)

/-- Behind a replay all that is open is left with a stop. -/
theorem executeAll_stops (nodes : List Node) {s : State} {new later earlier : Journal}
    {id : String} (hjournal : (executeAll h fuel nodes s).2.journal = new ++ s.journal)
    (hstops : new.StopsAtReplays) (hnew : new = later ++ .replayed id :: earlier) :
    Unwinds (.ok .stop) later ∧ (executeAll h fuel nodes s).1 = .ok .stop := by
  obtain ⟨inner, name, rfl⟩ := hstops later id earlier hnew
  obtain ⟨new', hnew', hheeds⟩ := Heeds.sequence (execute_heeds h fuel) nodes s
  rw [bind_ok] at hheeds
  have hsame : new' = new := List.append_cancel_right (hnew'.symm.trans hjournal)
  have hsplit : new' = inner ++ .ended name (.ok .stop) :: .replayed id :: earlier := by
    rw [hsame, hnew, List.append_assoc]
    rfl
  rcases hheeds inner name (.ok .stop) _ hsplit .stop with ⟨hunwinds, hout⟩ | ⟨reply, hreply, -⟩
  · exact ⟨unwinds_append hunwinds (by simp [Unwinds, Event.Leaves]), hout⟩
  · cases hreply

theorem executeAll_ending (nodes : List Node) {s : State} (hs : Unreplayed s) :
    Ending h s.output.batch (executeAll h fuel nodes s) := by
  have hreplays : Replays h s (executeAll h fuel nodes s).2 :=
    Keeps.sequence ((steady_replays h).execute_keeps fuel) nodes s
  obtain ⟨new, hjournal, hstops, hanswers⟩ := hreplays.journal
  cases hid : new.replayed? with
  | none =>
    rw [hid] at hanswers
    refine .nothing ⟨fun id hmem => ?_, hanswers.trans hs.replay⟩
    rw [hjournal, List.mem_append] at hmem
    exact hmem.elim (Journal.replayed?_eq_none.mp hid id) (hs.journal id)
  | some id =>
    rw [hid] at hanswers
    obtain ⟨hb, seconds, r, hstored, hshown⟩ := hanswers
    obtain ⟨later, earlier, rfl⟩ := Journal.exists_of_replayed? hid
    obtain ⟨hunwinds, hresult⟩ := executeAll_stops h fuel nodes hjournal hstops rfl
    refine .replay id seconds r later (earlier ++ s.journal) hb hstored ?_ ?_ hunwinds hshown
      hresult
    · rw [hjournal, List.append_assoc]
      rfl
    · intro id' hmem
      rw [List.mem_append] at hmem
      refine hmem.elim (fun hmem => ?_) (hs.journal id')
      -- an earlier replay would have stopped the program before this one
      obtain ⟨inner, rest, rfl⟩ := List.append_of_mem hmem
      have hsplit : later ++ .replayed id :: (inner ++ .replayed id' :: rest) =
          (later ++ .replayed id :: inner) ++ .replayed id' :: rest := by
        rw [List.append_assoc]
        rfl
      have hunwinds' := (executeAll_stops h fuel nodes hjournal hstops hsplit).1
      exact hunwinds' (.replayed id) (List.mem_append_right _ List.mem_cons_self)

/-- The first node asks for a stored response: it is not begun if there is one. -/
theorem executeBehindCache_ending (first : Node) (rest : List Node) {s : State}
    (hs : Unreplayed s) (hb : s.output.batch = false) :
    Ending h s.output.batch (executeBehindCache h fuel first rest s) := by
  rw [executeBehindCache, bind_apply, ask_apply]
  cases hd : h.directive first s.scope with
  | error e => exact .nothing hs
  | ok d =>
    change Ending h s.output.batch ((consultCache h d >>= _) s)
    rw [bind_apply, consultCache_apply]
    cases hr : h.stored d.id d.seconds with
    | none =>
      have hmiss : Unreplayed { s with output := { s.output with directive := some d } } :=
        ⟨hs.journal, hs.replay⟩
      exact executeAll_ending h fuel rest hmiss
    | some r =>
      exact .replay d.id d.seconds r [] s.journal hb hr rfl hs.journal (unwinds_nil _) rfl rfl

theorem executeNodes_ending (nodes : List Node) {s : State} (hs : Unreplayed s) :
    Ending h s.output.batch (executeNodes h fuel nodes s) := by
  unfold executeNodes
  cases nodes with
  | nil => exact executeAll_ending h fuel [] hs
  | cons first rest =>
    dsimp only
    rw [bind_apply, output_apply]
    dsimp only
    split
    · next hcache =>
      rw [Bool.and_eq_true, Bool.not_eq_true'] at hcache
      exact executeBehindCache_ending h fuel first rest hs hcache.2
    · exact executeAll_ending h fuel (first :: rest) hs

/-- However a program ends, it replays nothing, or it stops at the one response that it
replays. -/
theorem executeProgram_ending (id : String) {s : State} (hs : Unreplayed s) :
    Ending h s.output.batch (executeProgram h fuel id s) := by
  rw [executeProgram, bind_apply, load_apply]
  dsimp only
  cases (s.programs.load h.source h.registry id).1 with
  | error e => exact .nothing ⟨hs.journal, hs.replay⟩
  | ok p =>
    have hbegin : Unreplayed { s with
        scope := { s.scope with base := some p.id },
        programs := (s.programs.load h.source h.registry id).2 } := ⟨hs.journal, hs.replay⟩
    exact executeNodes_ending h fuel p.nodes hbegin

end Run

end ActionTree
