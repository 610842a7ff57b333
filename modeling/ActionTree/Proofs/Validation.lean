import ActionTree.Proofs.Invariant
import ActionTree.Proofs.ProgramCache

/-!
# ActionTree.Proofs.Validation

A program that passes the check meets no unknown instruction.

1. the check follows the declared layout of child nodes, an instruction executes what it
   executes: every node that an instruction executes is one that the check has seen
   (`checkNode_children`, `checkNode_branches`), and a switch has branches of known kinds
   only;
2. nothing is kept that does not pass the check (`Checked.load`), so every program that is
   found passes it;
3. a program that does not pass it might as well not be there: every run goes as it would
   if the source said so (`executeWith_validating`, `programWith_validating`).

Markers may do anything that raises no unknown instruction of its own and keeps no program
that was not checked (`Extension.Honest`).
-/

namespace ActionTree

open Run

/-! ## The check -/

namespace Registry

variable {r : Registry} {n : Node}

theorem checkNodes_eq_ok {nodes : List Node} :
    r.checkNodes nodes = .ok () ↔ ∀ m ∈ nodes, r.checkNode m = .ok () := by
  induction nodes with
  | nil => simp [checkNodes]
  | cons m ms ih =>
    rw [checkNodes, List.forall_mem_cons, ← ih]
    cases hm : r.checkNode m with
    | error e => simp
    | ok u => simp

theorem checkBranches_eq_ok {parent : String} {names : List String} {branches : List Node} :
    r.checkBranches parent names branches = .ok () ↔
      ∀ b ∈ branches, b.name ∈ names ∧ r.checkNodes b.children = .ok () := by
  induction branches with
  | nil => simp [checkBranches]
  | cons b bs ih =>
    obtain ⟨name, attributes, children, text⟩ := b
    rw [checkBranches, List.forall_mem_cons, ← ih]
    by_cases hname : name ∈ names
    · cases r.checkNodes children with
      | error e => simp [hname]
      | ok u => simp [hname]
    · simp [hname]

/-- A node passes the check if its name is known and what its layout declares passes it. -/
theorem checkNode_eq_ok :
    r.checkNode n = .ok () ↔ ∃ i, r.find? n.name = some i ∧
      match r.layout n.name i with
      | .instructions => r.checkNodes n.children = .ok ()
      | .branches names => r.checkBranches n.name names n.children = .ok ()
      | .declarations => True := by
  obtain ⟨name, attributes, children, text⟩ := n
  rw [checkNode]
  cases hi : r.find? name with
  | none => simp
  | some i =>
    cases hl : r.layout name i with
    | instructions => simp [hl]
    | branches names => simp [hl]
    | declarations => simp [hl]

mutual

/-- An offence in a node is a name that is not known. -/
theorem checkNode_error (r : Registry) (n : Node) {e : Error} (he : r.checkNode n = .error e) :
    ∃ name, e = .unknownInstruction name := by
  cases n with
  | mk name attributes children text =>
    rw [checkNode] at he
    cases hi : r.find? name with
    | none =>
      rw [hi] at he
      exact ⟨name, (Except.error.inj he).symm⟩
    | some i =>
      simp only [hi] at he
      cases hl : r.layout name i with
      | instructions =>
        simp only [hl] at he
        exact checkNodes_error r children he
      | branches names =>
        simp only [hl] at he
        exact checkBranches_error r name names children he
      | declarations => simp [hl] at he
termination_by structural n

theorem checkNodes_error (r : Registry) (nodes : List Node) {e : Error}
    (he : r.checkNodes nodes = .error e) : ∃ name, e = .unknownInstruction name := by
  cases nodes with
  | nil => simp [checkNodes] at he
  | cons n ns =>
    rw [checkNodes] at he
    cases hn : r.checkNode n with
    | error e' =>
      rw [hn] at he
      obtain rfl : e' = e := Except.error.inj he
      exact checkNode_error r n hn
    | ok u =>
      rw [hn] at he
      exact checkNodes_error r ns he
termination_by structural nodes

theorem checkBranches_error (r : Registry) (parent : String) (names : List String)
    (branches : List Node) {e : Error} (he : r.checkBranches parent names branches = .error e) :
    ∃ name, e = .unknownInstruction name := by
  cases branches with
  | nil => simp [checkBranches] at he
  | cons b bs =>
    cases b with
    | mk name attributes children text =>
      rw [checkBranches] at he
      split at he
      · cases hc : r.checkNodes children with
        | error e' =>
          rw [hc] at he
          obtain rfl : e' = e := Except.error.inj he
          exact checkNodes_error r children hc
        | ok u =>
          rw [hc] at he
          exact checkBranches_error r parent names bs he
      · exact ⟨_, (Except.error.inj he).symm⟩
termination_by structural branches

end

theorem layout_of_ne {i : Instruction} (hi : i ≠ .marker) (name : String) :
    r.layout name i = i.layout := by
  cases i with
  | marker => exact absurd rfl hi
  | _ => rfl

variable {i : Instruction} (hn : r.checkNode n = .ok ()) (hi : r.find? n.name = some i)

include hn hi

/-- The children of an instruction that executes its children were checked. -/
theorem checkNode_children (hl : r.layout n.name i = .instructions) :
    ∀ m ∈ n.children, r.checkNode m = .ok () := by
  obtain ⟨j, hj, hchecked⟩ := checkNode_eq_ok.mp hn
  obtain rfl : i = j := Option.some.inj (hi.symm.trans hj)
  rw [hl] at hchecked
  exact checkNodes_eq_ok.mp hchecked

/-- The branches of an instruction that has branches are of declared kinds, and their
children were checked. -/
theorem checkNode_branches {names : List String} (hl : r.layout n.name i = .branches names) :
    ∀ b ∈ n.children, b.name ∈ names ∧ ∀ m ∈ b.children, r.checkNode m = .ok () := by
  obtain ⟨j, hj, hchecked⟩ := checkNode_eq_ok.mp hn
  obtain rfl : i = j := Option.some.inj (hi.symm.trans hj)
  rw [hl] at hchecked
  intro b hb
  obtain ⟨hname, hchildren⟩ := checkBranches_eq_ok.mp hchecked b hb
  exact ⟨hname, checkNodes_eq_ok.mp hchildren⟩

end Registry

/-! ## Programs -/

/-- All programs that are kept pass the check. -/
def ProgramCache.Checked (r : Registry) (c : ProgramCache) : Prop :=
  ∀ id p, c.get? id = some p → r.check p.nodes = .ok ()

/-- All programs that can be loaded pass the check. -/
def Source.Checked (source : Source) (r : Registry) : Prop :=
  ∀ id stamp nodes, source.stamp id = .ok stamp → source.nodes id = .ok nodes →
    r.check nodes = .ok ()

/-- An error that a source raises itself. -/
def Source.Raises (source : Source) (e : Error) : Prop :=
  ∃ id, source.stamp id = .error e ∨ source.nodes id = .error e

/-- The source without the programs that do not pass the check: asked for one of them, it
tells the offence. -/
def Source.validating (source : Source) (r : Registry) : Source where
  stamp := source.stamp
  nodes id :=
    match source.nodes id with
    | .error e => .error e
    | .ok nodes =>
      match r.check nodes with
      | .error e => .error e
      | .ok () => .ok nodes

/-- The host with such a source. -/
def Host.validating (h : Host) : Host := { h with source := h.source.validating h.registry }

namespace ProgramCache

variable {r : Registry} {source : Source} {c : ProgramCache}

theorem Checked.load (hc : c.Checked r) (id : String) : (c.load source r id).2.Checked r := by
  obtain ⟨e, hload⟩ | ⟨stamp, p, -, -, hload⟩ | ⟨stamp, p, -, hread, hload⟩ :=
    load_cases c source r id
  · rwa [hload]
  · rwa [hload]
  · rw [hload]
    intro key q hq
    rw [get?_insert] at hq
    split at hq
    · obtain rfl : p = q := Option.some.inj hq
      obtain ⟨nodes, -, hcheck, rfl⟩ := readFresh_eq_ok.mp hread
      exact hcheck
    · exact hc key q hq

/-- A program that is found passes the check. -/
theorem Checked.found (hc : c.Checked r) {id : String} {p : Program}
    (hp : (c.load source r id).1 = .ok p) : r.check p.nodes = .ok () := by
  obtain ⟨e, hload⟩ | ⟨stamp, q, -, hcurrent, hload⟩ | ⟨stamp, q, -, hread, hload⟩ :=
    load_cases c source r id
  · rw [hload] at hp
    contradiction
  · rw [hload] at hp
    obtain rfl : q = p := Except.ok.inj hp
    exact hc id q (current?_eq_some.mp hcurrent).1
  · rw [hload] at hp
    obtain rfl : q = p := Except.ok.inj hp
    obtain ⟨nodes, -, hcheck, rfl⟩ := readFresh_eq_ok.mp hread
    exact hcheck

/-- What cannot be loaded is refused by its source, or does not pass the check. -/
theorem load_error_cases {id : String} {e : Error} (he : (c.load source r id).1 = .error e) :
    source.Raises e ∨ ∃ stamp nodes, source.stamp id = .ok stamp ∧
      source.nodes id = .ok nodes ∧ r.check nodes = .error e := by
  unfold load at he
  cases hstamp : source.stamp id with
  | error e' =>
    rw [hstamp] at he
    obtain rfl : e' = e := Except.error.inj he
    exact .inl ⟨id, .inl hstamp⟩
  | ok stamp =>
    rw [hstamp] at he
    dsimp only at he
    cases hcurrent : c.current? id stamp with
    | some p => simp [hcurrent] at he
    | none =>
      rw [hcurrent] at he
      dsimp only [readFresh] at he
      cases hnodes : source.nodes id with
      | error e' =>
        simp only [hnodes] at he
        obtain rfl : e' = e := Except.error.inj he
        exact .inl ⟨id, .inr hnodes⟩
      | ok nodes =>
        cases hcheck : r.check nodes with
        | error e' =>
          simp only [hnodes, hcheck] at he
          obtain rfl : e' = e := Except.error.inj he
          exact .inr ⟨stamp, nodes, rfl, rfl, hcheck⟩
        | ok u => simp [hnodes, hcheck] at he

/-- Loads make no difference between a source and the same without its faulty programs. -/
theorem load_validating (c : ProgramCache) (source : Source) (r : Registry) (id : String) :
    c.load (source.validating r) r id = c.load source r id := by
  have hfresh (stamp : Stamp) :
      readFresh (source.validating r) r id stamp = readFresh source r id stamp := by
    unfold readFresh Source.validating
    dsimp only
    cases source.nodes id with
    | error e => rfl
    | ok nodes =>
      dsimp only
      cases hcheck : r.check nodes with
      | error e => rfl
      | ok u => simp [hcheck]
  have hstamp : (source.validating r).stamp id = source.stamp id := rfl
  simp only [load, hstamp, hfresh]

end ProgramCache

/-! ## Runs -/

/-- Programs that pass the check are kept with others that do. -/
def StaysChecked (r : Registry) (s t : State) : Prop :=
  s.programs.Checked r → t.programs.Checked r

instance (r : Registry) : Frame (StaysChecked r) where
  refl _ := id
  trans hst htu hs := htu (hst hs)

/-- A failure is no unknown instruction, unless the source raises that error itself. -/
def Failure.Known (source : Source) (failure : Failure) : Prop :=
  ∀ name, failure = .error (.unknownInstruction name) → source.Raises (.unknownInstruction name)

theorem Failure.known_of_mild {source : Source} {e : Error} (he : e.isFatal = false) :
    Failure.Known source (.error e) := by
  intro name hname
  obtain rfl : e = .unknownInstruction name := Failure.error.inj hname
  contradiction

/-- From programs that pass the check a run comes to such programs, and it raises no unknown
instruction. -/
def Guarded (h : Host) (x : Run Flow) : Prop :=
  ∀ s, s.programs.Checked h.registry →
    (x s).2.programs.Checked h.registry ∧ Allows (Failure.Known h.source) (x s).1

/-- Markers keep nothing unchecked, and raise no unknown instruction but those that come from
the nodes that they execute. -/
structure Extension.Honest (own : Extension) (h : Host) : Prop where
  keeps : ∀ (exec : Node → Run Flow) (n : Node),
    (∀ m, Keeps (StaysChecked h.registry) (exec m)) → Keeps (StaysChecked h.registry) (own exec n)
  known : ∀ (exec : Node → Run Flow) (n : Node), h.registry.find? n.name = some .marker →
    h.registry.checkNode n = .ok () → (∀ m, h.registry.checkNode m = .ok () → Guarded h (exec m)) →
      Guarded h (own exec n)

theorem Extension.idle_honest (h : Host) : Extension.idle.Honest h where
  keeps _ _ _ := fun _ => id
  known _ _ _ _ _ := fun _ hs => ⟨hs, allows_ok _ _⟩

namespace Run

variable {h : Host} {own : Extension}

/-- The states whose programs pass the check. -/
def FromChecked (h : Host) (_ : Unit) (s : State) : Prop := s.programs.Checked h.registry

/-- Only a load changes what is kept, and it keeps nothing unchecked. -/
theorem fromChecked_invariant {P : Failure → Prop}
    (hmild : ∀ {e : Error}, e.isFatal = false → P (.error e))
    (hunread : ∀ {s id e}, FromChecked h () s →
      (s.programs.load h.source h.registry id).1 = .error e → P (.error e))
    (htooDeep : ∀ c limit, P (.error (tooDeep c limit))) :
    Invariant h P (FromChecked h) fun _ _ => () where
  mild := hmild
  leaf hl hs := by
    unfold FromChecked
    rw [hl.programs]
    exact hs
  place hs _ _ := hs
  based hs _ := hs
  load hs id := ProgramCache.Checked.load hs id
  unread hs he := hunread hs he
  tooDeep _ _ := htooDeep _ _
  began hs _ := hs
  ended hs _ _ := hs
  opened hs _ _ _ _ := hs
  closed _ ht _ _ := ht

theorem fromChecked_consult (P : Failure → Prop) :
    ConsultSettles h (⊤ : Filter Unit) P (FromChecked h) fun _ => h.stored :=
  consultSettles_of_stable (fun hs _ => hs) fun hs _ => hs

/-- A single run that settles is guarded. -/
theorem guarded_iff {x : Run Flow} : Guarded h x ↔
    Settles (⊤ : Filter Unit) (FromChecked h ()) (Allows (Failure.Known h.source))
      fun _ => x := by
  constructor
  · intro hx
    exact .const (fun s hs => (hx s hs).2) fun s hs => (hx s hs).1
  · intro hx s hs
    obtain ⟨hknown, hkept⟩ := hx.run hs
    exact ⟨hkept, hknown⟩

/-! ### What is kept -/

theorem keeps_iff {x : Run Flow} : Keeps (StaysChecked h.registry) x ↔
    Settles (⊤ : Filter Unit) (FromChecked h ()) (Allows fun _ => True) fun _ => x := by
  constructor
  · intro hx
    exact .const (fun _ _ _ _ => trivial) fun s hs => hx s hs
  · intro hx s hs
    exact (hx.run hs).2

theorem fromChecked_always :
    Invariant h (fun _ => True) (FromChecked h) fun _ _ => () :=
  fromChecked_invariant (fun _ => trivial) (fun _ _ => trivial) fun _ _ => trivial

/-- Whatever is executed, nothing is kept that does not pass the check. -/
theorem executeWith_staysChecked (hown : own.Honest h) (fuel : Nat) (n : Node) :
    Keeps (StaysChecked h.registry) (executeWith own h fuel n) := by
  have hall : Closed h (⊤ : Filter Unit) (fun _ => True) (FromChecked h) (fun _ _ => ()) own
      fun _ _ => True :=
    { unknown := fun _ _ => trivial
      children := fun _ _ _ _ _ _ => trivial
      branches := fun _ _ _ _ _ _ => trivial
      select := fun _ _ _ _ _ _ => trivial
      programs := fun _ _ _ => trivial
      marker := fun {_ n} _ _ exec hexec =>
        keeps_iff.mp (hown.keeps (exec ()) n fun m =>
          keeps_iff.mpr (hexec () m trivial)) }
  exact keeps_iff.mpr
    (executeWith_settles fromChecked_always (fromChecked_consult _) hall trivial fuel trivial)

theorem programWith_staysChecked (hown : own.Honest h) (fuel : Nat) (id : String) :
    Keeps (StaysChecked h.registry) (programWith h (executeWith own h fuel) id) := by
  have hrun := programWith_settles fromChecked_always (fromChecked_consult _)
    (fun _ : Unit => executeWith own h fuel)
    (fun _ _ m _ => keeps_iff.mp (executeWith_staysChecked hown fuel m)) id
  exact keeps_iff.mpr hrun

/-! ### What is known -/

/-- The nodes that pass the check. -/
def PassesCheck (h : Host) (_ : Unit) (n : Node) : Prop := h.registry.checkNode n = .ok ()

theorem passesCheck_of_findable {p : Program} (hp : Findable h (FromChecked h ()) p) :
    ∀ m ∈ p.nodes, PassesCheck h () m := by
  obtain ⟨s, id, hs, hload⟩ := hp
  exact Registry.checkNodes_eq_ok.mp (ProgramCache.Checked.found hs hload)

/-- Every node that an instruction executes is one that the check has seen. -/
theorem passesCheck_closed (hown : own.Honest h) :
    Closed h (⊤ : Filter Unit) (Failure.Known h.source) (FromChecked h) (fun _ _ => ()) own
      (PassesCheck h) where
  unknown hn hfind := by
    obtain ⟨i, hi, -⟩ := Registry.checkNode_eq_ok.mp hn
    rw [hfind] at hi
    contradiction
  children hn hfind hmarker hl :=
    Registry.checkNode_children hn hfind ((Registry.layout_of_ne hmarker _).trans hl)
  branches hn hfind b hb := (Registry.checkNode_branches hn hfind rfl b hb).2
  select hn hfind subject c e he := by
    have hkinds := Registry.checkNode_branches hn hfind rfl
    exact Failure.known_of_mild (mild_select h c (fun b hb => (hkinds b hb).1) subject e he)
  programs hp := passesCheck_of_findable hp
  marker {_ n} hn hfind exec hexec :=
    guarded_iff.mp (hown.known (exec ()) n hfind hn fun m hm =>
      guarded_iff.mpr (hexec () m hm))

section Known

variable (hsource : h.source.Checked h.registry)

include hsource

theorem fromChecked_known :
    Invariant h (Failure.Known h.source) (FromChecked h) fun _ _ => () := by
  refine fromChecked_invariant Failure.known_of_mild (fun _ he => ?_) fun c limit => ?_
  · intro name hname
    obtain hraised | ⟨stamp, nodes, hstamp, hnodes, hcheck⟩ :=
      ProgramCache.load_error_cases he
    · rw [← Failure.error.inj hname]
      exact hraised
    · have hok := hsource _ stamp nodes hstamp hnodes
      rw [hcheck] at hok
      contradiction
  · intro name hname
    have hdeep : tooDeep c limit = .unknownInstruction name := Failure.error.inj hname
    rw [tooDeep] at hdeep
    contradiction

theorem programWith_guarded (hown : own.Honest h) (fuel : Nat) (id : String) :
    Guarded h (programWith h (executeWith own h fuel) id) := by
  have hI := fromChecked_known hsource
  have hconsult := fromChecked_consult (h := h) (Failure.Known h.source)
  have hout : Failure.Known h.source .outOfFuel := by
    intro name hname
    contradiction
  exact guarded_iff.mpr (programWith_settles hI hconsult _ (fun p hp m hm =>
    executeWith_settles hI hconsult (passesCheck_closed hown) hout fuel
      (passesCheck_of_findable hp m hm)) id)

end Known

/-! ### What is refused -/

theorem validating_alike (h : Host) : Host.Alike h h.validating := by
  refine ⟨rfl, rfl, rfl, rfl, fun id => ?_⟩
  have hload (c : ProgramCache) : c.load h.validating.source h.validating.registry id =
      c.load h.source h.registry id := ProgramCache.load_validating c h.source h.registry id
  unfold load
  simp only [hload]

/-- A node does what it would if no program were there that does not pass the check. -/
theorem executeWith_validating (own : Extension) (h : Host) (fuel : Nat) (n : Node) :
    executeWith own h.validating fuel n = executeWith own h fuel n := by
  induction fuel generalizing n with
  | zero => rfl
  | succ fuel ih =>
    have hexec : executeWith own h.validating fuel = executeWith own h fuel := funext ih
    have hperform (i : Instruction) (exec : Node → Run Flow) :
        performWith own h.validating fuel exec i n = performWith own h fuel exec i n := by
      by_cases hmarker : i = .marker
      · subst hmarker
        rfl
      · rw [performWith_of_ne hmarker, performWith_of_ne hmarker]
        by_cases hcache : i = .cache
        · subst hcache
          rfl
        · exact (validating_alike h).perform_eq hcache
    rw [executeWith, hexec]
    simp only [hperform]
    rfl

/-- A program runs as it would if none were there that does not pass the check. -/
theorem programWith_validating (own : Extension) (h : Host) (fuel : Nat) (id : String) :
    programWith h.validating (executeWith own h.validating fuel) id =
      programWith h (executeWith own h fuel) id := by
  have hexec : executeWith own h.validating fuel = executeWith own h fuel :=
    funext (executeWith_validating own h fuel)
  rw [hexec, programWith, (validating_alike h).load]
  rfl

end Run

/-- A program is there and does not pass the check, and none of its versions that does is kept
as the present one. -/
def Host.Refuses (h : Host) (c : ProgramCache) (id : String) (e : Error) : Prop :=
  ∃ stamp nodes, h.source.stamp id = .ok stamp ∧ h.source.nodes id = .ok nodes ∧
    h.registry.check nodes = .error e ∧ c.current? id stamp = none

namespace Host.Refuses

variable {h : Host} {c : ProgramCache} {id : String} {e : Error}

theorem load_eq (hr : h.Refuses c id e) : c.load h.source h.registry id = (.error e, c) := by
  obtain ⟨stamp, nodes, hstamp, hnodes, hcheck, hcurrent⟩ := hr
  simp only [ProgramCache.load, ProgramCache.readFresh, hstamp, hcurrent, hnodes, hcheck]

theorem unknown (hr : h.Refuses c id e) : ∃ name, e = .unknownInstruction name := by
  obtain ⟨stamp, nodes, -, -, hcheck, -⟩ := hr
  exact Registry.checkNodes_error h.registry nodes hcheck

/-- A request for it comes to its offence, and to nothing else. -/
theorem programWith_eq {s : State} (hr : h.Refuses s.programs id e) (exec : Node → Run Flow) :
    programWith h exec id s = (.error (.error e), s) := by
  rw [programWith, bind_apply, load_apply, hr.load_eq]
  rfl

/-- A node that names it comes to its offence, and to nothing else. -/
theorem perform_eq {s : State} {n : Node} {i : Instruction} {src : String}
    (hi : i = .evaluate ∨ i = .call) (hsrc : h.attr n "src" s.scope = .ok src)
    (hr : h.Refuses s.programs (resolveReference s.scope.base src) e) (fuel : Nat)
    (exec : Node → Run Flow) : perform h fuel exec i n s = (.error (.error e), s) := by
  obtain ⟨name, rfl⟩ := hr.unknown
  have htarget : Run.target h n s = (.error (.error (.unknownInstruction name)), s) := by
    rw [target_apply, hsrc]
    simp only [hr.load_eq]
  obtain rfl | rfl := hi
  · rw [perform, evaluate, bind_apply, htarget]
  · rw [perform, call_apply, htarget]

end Host.Refuses

/-! ## Libraries and folders -/

/-- A library only fails to find a program. -/
theorem Library.raises_missing {l : Library} {e : Error} (he : l.source.Raises e) :
    ∃ id, e = .missingProgram id := by
  obtain ⟨id, hstamp | hnodes⟩ := he
  · unfold source at hstamp
    dsimp only at hstamp
    split at hstamp
    · contradiction
    · exact ⟨id, (Except.error.inj hstamp).symm⟩
  · unfold source at hnodes
    dsimp only at hnodes
    split at hnodes
    · contradiction
    · exact ⟨id, (Except.error.inj hnodes).symm⟩

theorem documentError_known (id : String) (cause : FileError) (name : String) :
    documentError id cause ≠ .unknownInstruction name := by
  unfold documentError
  split <;> simp

theorem findDocument_known {d : Disk} {folder id : String} (name : String) :
    findDocument d folder id ≠ .error (.unknownInstruction name) := by
  unfold findDocument
  split
  · simp
  · split
    · simp
    · simpa using documentError_known id _ name

/-- Reading a document is no matter of instructions. -/
theorem readProgram_known {bytes : List UInt8} (name : String) :
    readProgram bytes ≠ .error (.unknownInstruction name) := by
  unfold readProgram
  split
  · simp
  · split <;> simp

/-- No engine's source raises an unknown instruction. -/
theorem Engine.source_known (e : Engine) (name : String) :
    ¬ e.source.Raises (.unknownInstruction name) := by
  intro hraised
  unfold Engine.source at hraised
  split at hraised
  · obtain ⟨id, hmissing⟩ := Library.raises_missing hraised
    contradiction
  · obtain ⟨id, hstamp | hnodes⟩ := hraised
    · unfold folderSource at hstamp
      dsimp only at hstamp
      split at hstamp
      · contradiction
      · simp at hstamp
      · next err hfind =>
        obtain rfl : err = .unknownInstruction name := Except.error.inj hstamp
        exact findDocument_known name hfind
    · unfold folderSource at hnodes
      dsimp only at hnodes
      split at hnodes
      · exact readProgram_known name hnodes
      · simp at hnodes
      · next err hfind =>
        obtain rfl : err = .unknownInstruction name := Except.error.inj hnodes
        exact findDocument_known name hfind

/-- A request to an engine whose programs pass the check meets no unknown instruction. -/
theorem Engine.run_known {e : Engine} (hsource : e.source.Checked e.registry)
    (hkept : e.programs.Checked e.registry) (fuel : Nat) (r : Request) (request : Headers)
    (batch : Bool) (name : String) :
    (executeProgram (e.host request) fuel r.program
      (e.initialState (Context.ofParameters r.parameters) batch)).1 ≠
      .error (.error (.unknownInstruction name)) := by
  intro hname
  have hexec : executeWith .idle (e.host request) fuel = execute (e.host request) fuel :=
    funext (executeWith_idle (e.host request) fuel)
  have hguarded := programWith_guarded (h := e.host request) hsource
    (Extension.idle_honest (e.host request)) fuel r.program
  rw [hexec, ← executeProgram_eq] at hguarded
  have hknown :=
    (hguarded (e.initialState (Context.ofParameters r.parameters) batch) hkept).2
  exact e.source_known name (hknown _ hname name rfl)

/-! ## Checked before run -/

namespace Run

/-- **What passes the check meets no unknown instruction, and nothing else is run.**  With any
honest extension:

1. if all programs that can be loaded pass the check, no program ends with an unknown
   instruction, unless the source itself raises that error; so no request to an engine does,
   whose sources never raise it;
2. whatever the source, every program runs as it would if those that do not pass the check
   were not there, and none of them is kept;
3. asked for such a program, a request comes to its offence and does nothing; a node that
   names it begins and ends with its offence, and nothing stands between. -/
theorem checked_before_run (h : Host) (own : Extension) (hown : own.Honest h) :
    (h.source.Checked h.registry → ∀ fuel id s, s.programs.Checked h.registry → ∀ name,
        (programWith h (executeWith own h fuel) id s).1 =
          .error (.error (.unknownInstruction name)) →
        h.source.Raises (.unknownInstruction name)) ∧
      (∀ e : Engine, e.source.Checked e.registry → e.programs.Checked e.registry →
        ∀ fuel (r : Request) request batch name,
          (executeProgram (e.host request) fuel r.program
            (e.initialState (Context.ofParameters r.parameters) batch)).1 ≠
            .error (.error (.unknownInstruction name))) ∧
      (∀ fuel id, programWith h (executeWith own h fuel) id =
        programWith h.validating (executeWith own h.validating fuel) id) ∧
      (∀ fuel id s, s.programs.Checked h.registry →
        (programWith h (executeWith own h fuel) id s).2.programs.Checked h.registry) ∧
      (∀ fuel id e s, h.Refuses s.programs id e →
        programWith h (executeWith own h fuel) id s = (.error (.error e), s)) ∧
      ∀ fuel n i src e s, h.registry.find? n.name = some i → i = .evaluate ∨ i = .call →
        h.attr n "src" s.scope = .ok src →
        h.Refuses s.programs (resolveReference s.scope.base src) e →
        let journal := .ended n.name (.error (.error e)) ::
          .began n.name s.scope.depth :: s.journal
        executeWith own h (fuel + 1) n s = (.error (.error e), { s with journal }) := by
  refine ⟨fun hsource fuel id s hs name hname => ?_, fun e => Engine.run_known,
    fun fuel id => (programWith_validating own h fuel id).symm,
    fun fuel id => programWith_staysChecked hown fuel id,
    fun fuel id e s hr => hr.programWith_eq _, ?_⟩
  · exact (programWith_guarded hsource hown fuel id s hs).2 _ hname name rfl
  · intro fuel n i src e s hfind hi hsrc hr journal
    have hmarker : i ≠ .marker := by
      rintro rfl
      simp at hi
    have hperform := Host.Refuses.perform_eq (s := beginning n s) hi hsrc hr fuel
      (executeWith own h fuel)
    rw [executeWith_known hfind]
    simp only [performWith_of_ne hmarker, hperform]
    rfl

end Run

/-- A marker that runs its children twice. -/
def Extension.twice : Extension := fun exec n => do
  match ← sequence exec n.children with
  | .next => sequence exec n.children
  | flow => return flow

theorem Extension.twice_honest {h : Host}
    (hlayout : ∀ name, h.registry.markerLayout name = .instructions) :
    Extension.twice.Honest h where
  keeps _ _ hexec := by
    refine .bind (.sequence hexec _) fun flow => ?_
    cases flow with
    | next => exact .sequence hexec _
    | _ => exact .pure _
  known exec n hfind hchecked hexec := by
    have hchildren : ∀ m ∈ n.children, h.registry.checkNode m = .ok () :=
      Registry.checkNode_children hchecked hfind (hlayout n.name)
    have honce : Settles (⊤ : Filter Unit) (FromChecked h ()) (Allows (Failure.Known h.source))
        fun _ => sequence exec n.children :=
      .sequence fun m hm => guarded_iff.mp (hexec m (hchildren m hm))
    refine guarded_iff.mpr (.andThen honce fun flow => ?_)
    cases flow with
    | next => exact honce
    | _ => exact .pure _

/-- A library whose programs pass the check, with one more that does. -/
theorem Library.insert_checked {l : Library} {r : Registry} (hl : l.source.Checked r)
    (id : String) {nodes : List Node} (hnodes : r.check nodes = .ok ()) :
    (l.insert id nodes).source.Checked r := by
  intro key stamp found hstamp hfound
  rw [Library.nodes_insert] at hfound
  split at hfound
  · rwa [← Except.ok.inj hfound]
  · next hkey =>
    have hsame : (l.insert id nodes).source.stamp key = l.source.stamp key := by
      unfold Library.source
      dsimp only
      rw [Library.get?_insert, if_neg hkey]
    exact hl key stamp found (hsame ▸ hstamp) hfound

/-- Programs that run each other by computed names, one of them in a marker. -/
def guestLibrary : Library :=
  (Library.insert {} "sub"
    [{ name := "set", attributes := [("ref", "kind"), ("value", "main")] }]).insert "main"
    [{ name := "switch", attributes := [("subject", "{kind}")], children :=
        [{ name := "string", attributes := [("value", "sub")], children :=
            [{ name := "twice", children :=
                [{ name := "evaluate", attributes := [("src", "{kind}")] }] }] },
         { name := "default", children :=
            [{ name := "call", attributes := [("src", "main"), ("shared", "1")] }] }] }]

/-- The same with a program that has an unknown instruction. -/
def brokenLibrary : Library :=
  guestLibrary.insert "broken"
    [{ name := "set", attributes := [("ref", "x"), ("value", "1")] }, { name := "teleport" }]

/-- A host that knows the marker. -/
def guestHost (l : Library) : Host :=
  { Host.ofLibrary l with registry := { markers := ["twice"] } }

/-- An engine that knows the marker, with the programs that pass the check. -/
def guestEngine : Engine :=
  { registry := { markers := ["twice"] }, origin := .library guestLibrary }

/-- A node that names the other program. -/
def brokenCall : Node := { name := "call", attributes := [("src", "broken")] }

theorem brokenCall_src :
    (guestHost brokenLibrary).attr brokenCall "src" {} = .ok "broken" := by
  cbv

theorem checked_before_run_guests :
    let h := guestHost guestLibrary
    let h' := guestHost brokenLibrary
    let s := State.ofScope {}
    let n := brokenCall
    let e : Error := .unknownInstruction "teleport"
    (Extension.twice.Honest h ∧ h.source.Checked h.registry ∧ s.programs.Checked h.registry ∧
      ∀ fuel id name, (programWith h (executeWith .twice h fuel) id s).1 ≠
        .error (.error (.unknownInstruction name))) ∧
    (∀ fuel (r : Request) name,
      (executeProgram (guestEngine.host []) fuel r.program
        (guestEngine.initialState (Context.ofParameters r.parameters) false)).1 ≠
        .error (.error (.unknownInstruction name))) ∧
    Extension.twice.Honest h' ∧ h'.Refuses s.programs "broken" e ∧
      h'.attr n "src" s.scope = .ok "broken" ∧
      (∀ fuel, programWith h' (executeWith .twice h' fuel) "broken" s = (.error (.error e), s)) ∧
      ∀ fuel, (executeWith .twice h' (fuel + 1) n s).2.journal =
        [.ended "call" (.error (.error e)), .began "call" 0] := by
  intro h h' s n e
  have hown : Extension.twice.Honest h := Extension.twice_honest fun _ => rfl
  have hown' : Extension.twice.Honest h' := Extension.twice_honest fun _ => rfl
  have hnone : ({} : Library).source.Checked h.registry := nofun
  have hsource : h.source.Checked h.registry :=
    Library.insert_checked (Library.insert_checked hnone "sub" rfl) "main" rfl
  have hkept : s.programs.Checked h.registry := nofun
  have hrefuses : h'.Refuses s.programs "broken" e := ⟨.written 3, _, rfl, rfl, rfl, rfl⟩
  obtain ⟨hknown, hengine, -⟩ := checked_before_run h .twice hown
  obtain ⟨-, -, -, -, hrequest, hnode⟩ := checked_before_run h' .twice hown'
  refine ⟨⟨hown, hsource, hkept, fun fuel id name hname => ?_⟩,
    fun fuel r => hengine guestEngine hsource hkept fuel r [] false,
    hown', hrefuses, brokenCall_src,
    fun fuel => hrequest fuel "broken" e s hrefuses, fun fuel => ?_⟩
  · obtain ⟨_, hmissing⟩ := Library.raises_missing (hknown hsource fuel id s hkept name hname)
    contradiction
  · have hended := hnode fuel n .call "broken" e s rfl (.inr rfl) brokenCall_src hrefuses
    rw [hended]
    rfl

end ActionTree
