import ActionTree.Proofs.Twin

/-!
# ActionTree.Proofs.LeadingCache

A program whose first node asks for a stored response.

1. such a node is not begun when the program is run: its directive is followed before anything
   is begun.  What could differ is what is decided, and in which order;
2. nothing does.  From one state the short way and the node itself come to one result, and to
   states that only the node's beginning and end in the journal tell apart
   (`executeNodes_sameButNodes`);
3. no later node can see that either, since such states are twins (`twins_sameButNodes`).

So it makes no difference where in a program its `cache` node stands.
-/

namespace ActionTree

open Run

/-! ## States that differ in the nodes begun -/

/-- Whether an event is the beginning or the end of a node. -/
def Event.isOfNode : Event → Bool
  | .began _ _ => true
  | .ended _ _ => true
  | _ => false

/-- What happened but for the beginnings and the ends of nodes. -/
def Journal.deeds (j : Journal) : Journal := j.filter fun e => !e.isOfNode

theorem Journal.deeds_cons (e : Event) (j : Journal) :
    Journal.deeds (e :: j) = if e.isOfNode then Journal.deeds j else e :: Journal.deeds j := by
  rw [deeds, List.filter_cons]
  cases e.isOfNode <;> rfl

/-- Two states that only the beginnings and ends of nodes in their journals tell apart. -/
structure State.SameButNodes (s t : State) : Prop where
  scope : s.scope = t.scope
  output : s.output = t.output
  programs : s.programs = t.programs
  deeds : Journal.deeds s.journal = Journal.deeds t.journal

namespace State.SameButNodes

variable {s t : State}

theorem refl (s : State) : s.SameButNodes s := ⟨rfl, rfl, rfl, rfl⟩

theorem record (hst : s.SameButNodes t) (e : Event) :
    SameButNodes { s with journal := e :: s.journal } { t with journal := e :: t.journal } := by
  refine ⟨hst.scope, hst.output, hst.programs, ?_⟩
  rw [Journal.deeds_cons, Journal.deeds_cons, hst.deeds]

/-- The beginning and the end of a node are not told apart from nothing. -/
theorem of_node {e : Event} (he : e.isOfNode = true) (hst : s.SameButNodes t) :
    SameButNodes s { t with journal := e :: t.journal } := by
  refine ⟨hst.scope, hst.output, hst.programs, ?_⟩
  rw [Journal.deeds_cons, if_pos he, hst.deeds]

end State.SameButNodes

theorem twins_sameButNodes (h : Host) : Twins h State.SameButNodes where
  scope hst := hst.scope
  output hst := hst.output
  setScope hst _ := ⟨rfl, hst.output, hst.programs, hst.deeds⟩
  setOutput hst _ := ⟨hst.scope, rfl, hst.programs, hst.deeds⟩
  record hst e := hst.record e
  load hst id := by
    rw [hst.programs]
    exact ⟨rfl, hst.scope, hst.output, rfl, hst.deeds⟩

namespace Run

variable {h : Host}

/-! ## The first node -/

/-- A `cache` node that is begun comes to what following its directive comes to. -/
theorem execute_cache {n : Node} (hcache : h.registry.find? n.name = some .cache) (fuel : Nat)
    {s : State} (hbatch : s.output.batch = false) :
    let followed : Run Flow := do
      let d ← ask (h.directive n)
      consultCache h d
    (followed s).1 = (execute h (fuel + 1) n s).1 ∧
      (followed s).2.SameButNodes (execute h (fuel + 1) n s).2 := by
  intro followed
  have hbegun : s.SameButNodes (beginning n s) := .of_node rfl (.refl s)
  have hfollowed : Alike State.SameButNodes followed :=
    .bind ((twins_sameButNodes h).ask _) fun d => (twins_sameButNodes h).consultCache d
  obtain ⟨hresult, hend⟩ := hfollowed s (beginning n s) hbegun
  have hperform : Run.cache h n (beginning n s) = followed (beginning n s) := by
    have houtput : (beginning n s).output.batch = false := hbatch
    rw [Run.cache, bind_apply, output_apply]
    simp only [houtput]
    rfl
  rw [execute_known hcache, perform, hperform]
  exact ⟨hresult, .of_node rfl hend⟩

/-! ## Programs -/

/-- The nodes of a program come to the same if the first of them is begun like the others. -/
theorem executeNodes_sameButNodes (hcache : h.registry.find? "cache" = some .cache) (fuel : Nat)
    (nodes : List Node) (s : State) :
    (executeNodes h (fuel + 1) nodes s).1 = (executeAll h (fuel + 1) nodes s).1 ∧
      (executeNodes h (fuel + 1) nodes s).2.SameButNodes
        (executeAll h (fuel + 1) nodes s).2 := by
  cases nodes with
  | nil => exact ⟨rfl, .refl _⟩
  | cons first rest =>
    have hnodes : executeNodes h (fuel + 1) (first :: rest) s =
        if first.name == "cache" && !s.output.batch then
          executeBehindCache h (fuel + 1) first rest s
        else executeAll h (fuel + 1) (first :: rest) s := by
      rw [executeNodes, bind_apply, output_apply]
      dsimp only
      split <;> rfl
    rw [hnodes]
    split
    · next hshort =>
      rw [Bool.and_eq_true, beq_iff_eq, Bool.not_eq_true'] at hshort
      obtain ⟨hname, hbatch⟩ := hshort
      obtain ⟨hresult, hend⟩ := execute_cache (hname ▸ hcache) fuel hbatch
      rw [executeBehindCache, ← bind_assoc]
      refine Alike.bind_of hresult hend fun flow => ?_
      -- The rest is run behind a directive that was kept, and a replay ends both ways.
      cases flow with
      | next => exact (twins_sameButNodes h).executeAll_alike (fuel + 1) rest
      | _ => exact .pure _
    · exact ⟨rfl, .refl _⟩

/-- Runs the program of an id, its first node like every other. -/
def dispatchProgram (h : Host) (fuel : Nat) (id : String) : Run Flow := do
  match ← load h id with
  | .error e => fail e
  | .ok p => do
    updateScope fun c => { c with base := some p.id }
    executeAll h fuel p.nodes

/-- **It makes no difference that a leading `cache` node is not begun.**  For every program,
whatever its scope, its host and the stored responses are, and in a batch too, the short way and
the way through all of its nodes come to the same flow or error, and leave the same scope, the
same settings of the response and the same programs kept.  The same was logged, queried and
replayed on both: only the beginning and the end of the node itself are in one journal and not in
the other. -/
theorem leading_cache_is_dispatched (hcache : h.registry.find? "cache" = some .cache) (fuel : Nat)
    (id : String) (s : State) :
    (executeProgram h (fuel + 1) id s).1 = (dispatchProgram h (fuel + 1) id s).1 ∧
      (executeProgram h (fuel + 1) id s).2.SameButNodes
        (dispatchProgram h (fuel + 1) id s).2 := by
  rw [executeProgram, dispatchProgram, bind_apply, bind_apply, load_apply]
  cases (s.programs.load h.source h.registry id).1 with
  | error e => exact ⟨rfl, .refl _⟩
  | ok p => exact executeNodes_sameButNodes hcache fuel p.nodes _

/-- A host with one program, which asks for what is stored under a name from the form, and with
one stored response. -/
def newsHost : Host :=
  { Host.ofLibrary (Library.insert {} "page"
      [{ name := "cache", attributes := [("id", "\x7bpage\x7d"), ("expires", "60")] },
        { name := "break" }]) with
    stored := fun id _ => if id = "news" then some ⟨[], [], false⟩ else none }

/-- A request for a page. -/
def pageState (page : String) : State := State.ofScope { form := [("page", .text page)] }

/-- What is stored is replayed on both ways, and where nothing is stored the other nodes decide. -/
theorem leading_cache_is_dispatched_news :
    newsHost.registry.find? "cache" = some .cache ∧
    (executeProgram newsHost 2 "page" (pageState "news")).1 = .ok .stop ∧
    (dispatchProgram newsHost 2 "page" (pageState "news")).1 = .ok .stop ∧
    (executeProgram newsHost 2 "page" (pageState "news")).2.SameButNodes
      (dispatchProgram newsHost 2 "page" (pageState "news")).2 ∧
    (executeProgram newsHost 2 "page" (pageState "weather")).1 = .ok .leave ∧
    (dispatchProgram newsHost 2 "page" (pageState "weather")).1 = .ok .leave := by
  obtain ⟨hnews, hend⟩ :=
    leading_cache_is_dispatched (h := newsHost) rfl 1 "page" (pageState "news")
  obtain ⟨hweather, -⟩ :=
    leading_cache_is_dispatched (h := newsHost) rfl 1 "page" (pageState "weather")
  have hstop : (executeProgram newsHost 2 "page" (pageState "news")).1 = .ok .stop := by cbv
  have hleave : (executeProgram newsHost 2 "page" (pageState "weather")).1 = .ok .leave := by cbv
  exact ⟨rfl, hstop, hnews ▸ hstop, hend, hleave, hweather ▸ hleave⟩

end Run

end ActionTree
