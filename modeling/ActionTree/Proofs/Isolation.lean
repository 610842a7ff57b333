import ActionTree.Proofs.Segments
import ActionTree.Proofs.Steady

/-!
# ActionTree.Proofs.Isolation

An isolated call neither leaks nor observes.

1. all that a call writes into its caller's scope is the fields that the
   sub-program has marked for export, and the reply that the call keeps;
2. all that a sub-program sees of its caller is the parameters, so two callers that
   give the same parameters get the same run.

The marked fields are found under their names because no two fields of a scope have
one name (`steady_stayDistinct`).
-/

namespace ActionTree

open Run Text

/-! ## Exports -/

namespace Context

/-- A key is marked, with something behind the mark, or it is not. -/
theorem marked_or (marker key : String) :
    (∃ rest, key = marker ++ rest ∧ rest ≠ "") ∨ ∀ rest, key = marker ++ rest → rest = "" := by
  by_cases h : ∃ rest, key = marker ++ rest ∧ rest ≠ ""
  · exact .inl h
  · exact .inr fun rest hk => Classical.byContradiction fun hrest => h ⟨rest, hk, hrest⟩

variable {form : Record} {index : Option Nat} {base : Option String} {depth : Nat}

theorem exports_marked {marker rest : String} (hrest : rest ≠ "") (v : Value) (es : Record) :
    exports ⟨(marker ++ rest, v) :: es, form, index, base, depth⟩ marker =
      (rest, v) :: exports ⟨es, form, index, base, depth⟩ marker := by
  refine List.filterMap_cons_some ?_
  simp only [stripStart_eq_some.mpr rfl, if_neg hrest]

theorem exports_unmarked {marker key : String} (hkey : ∀ rest, key = marker ++ rest → rest = "")
    (v : Value) (es : Record) :
    exports ⟨(key, v) :: es, form, index, base, depth⟩ marker =
      exports ⟨es, form, index, base, depth⟩ marker := by
  refine List.filterMap_cons_none ?_
  dsimp only
  cases hs : stripStart marker key with
  | none => rfl
  | some rest => exact if_pos (hkey rest (stripStart_eq_some.mp hs))

/-- What is exported under a name is what is in the field of the marked name. -/
theorem get?_exports (c : Context) (marker name : String) :
    Record.get? (c.exports marker) name =
      if name = "" then none else Record.get? c.fields (marker ++ name) := by
  obtain ⟨fields, form, index, base, depth⟩ := c
  induction fields with
  | nil => simp [exports, Record.get?]
  | cons e es ih =>
    obtain ⟨key, v⟩ := e
    rcases marked_or marker key with ⟨rest, rfl, hrest⟩ | hkey
    · rw [exports_marked hrest]
      simp only [Record.get?, ih, String.append_right_inj]
      by_cases hname : rest = name
      · subst hname
        simp only [if_true, if_neg hrest]
      · simp only [if_neg hname]
    · rw [exports_unmarked hkey, ih]
      by_cases hname : name = ""
      · simp only [if_pos hname]
      · have hne : key ≠ marker ++ name := fun hk => hname (hkey name hk)
        simp only [if_neg hname, Record.get?, if_neg hne]

theorem distinct_exports {c : Context} (hc : Record.Distinct c.fields) (marker : String) :
    Record.Distinct (c.exports marker) := by
  obtain ⟨fields, form, index, base, depth⟩ := c
  induction fields with
  | nil => exact Record.distinct_nil
  | cons e es ih =>
    obtain ⟨key, v⟩ := e
    obtain ⟨hnew, hes⟩ := Record.distinct_cons.mp hc
    rcases marked_or marker key with ⟨rest, rfl, hrest⟩ | hkey
    · rw [exports_marked hrest]
      refine Record.distinct_cons.mpr ⟨?_, ih hes⟩
      rw [← Record.get?_eq_none_iff, get?_exports, if_neg hrest]
      exact Record.get?_eq_none_iff.mpr hnew
    · rw [exports_unmarked hkey]
      exact ih hes

end Context

/-! ## Calls -/

/-- What a call lets through of the flow of its program. -/
def Flow.through (control : Bool) : Flow → Flow
  | reply r => if control then reply r else next
  | stop => stop
  | _ => next

/-- The caller's scope with the reply written into it that the call keeps. -/
def afterCall (n : Node) (control : Bool) (result : Except Failure Flow) (c : Context) : Context :=
  match result, control with
  | .ok (.reply r), false => c.set ((n.name? "ref").getD "result") r.toValue
  | _, _ => c

/-- The state in which the nodes of an isolated program begin: of the caller's scope
it has the depth alone. -/
def childState (p : Program) (parameters : Record) (s : State) : State :=
  { s with
    scope := { form := parameters, base := some p.id, depth := s.scope.depth + 1 }
    journal := .opened p.id :: s.journal }

namespace Run

theorem passOn_apply (n : Node) (control : Bool) (flow : Flow) (s : State) :
    passOn n control flow s =
      (.ok (flow.through control), { s with scope := afterCall n control (.ok flow) s.scope }) := by
  cases flow with
  | reply r => cases control <;> rfl
  | _ => cases control <;> rfl

/-- A program in a scope of its own begins in `childState`. -/
theorem runIsolated_eq (h : Host) (exec : Node → Run Flow) (n : Node) (p : Program) (s : State) :
    runIsolated h exec n p s = match h.parameters n s.scope with
      | .error e => (.error (.error e), s)
      | .ok parameters =>
        if s.scope.depth < h.config.maxCallDepth then
          let (result, t) := sequence exec p.nodes (childState p parameters s)
          (result, { t with
            scope := s.scope.importFields (t.scope.exports h.config.exportMarker)
            journal := .closed p.id :: t.journal })
        else (.error (.error (tooDeep s.scope h.config.maxCallDepth)), s) := by
  rw [runIsolated_apply]
  cases hp : h.parameters n s.scope with
  | error e => rfl
  | ok parameters =>
    dsimp only
    by_cases hdepth : s.scope.depth < h.config.maxCallDepth
    · have hc : (s.scope.child parameters p.id).enter? h.config.maxCallDepth =
          some (childState p parameters s).scope := Context.enter?_eq_some.mpr ⟨hdepth, rfl⟩
      rw [hc, if_pos hdepth]
      rfl
    · have hc : (s.scope.child parameters p.id).enter? h.config.maxCallDepth = none :=
        if_neg hdepth
      rw [hc, if_neg hdepth]

/-- A call that is not shared and runs a program leaves what is made of the run of
that program, which came to `child`. -/
def closeCall (h : Host) (n : Node) (control : Bool) (p : Program) (c : Context)
    (child : Except Failure Flow × State) : Except Failure Flow × State :=
  (child.1.map (Flow.through control), { child.2 with
    scope := afterCall n control child.1
      (c.importFields (child.2.scope.exports h.config.exportMarker))
    journal := .closed p.id :: child.2.journal })

end Run

/-- What a call that is not shared finds out before it runs its program: whether it
lets replies out, and the parameters; or why the program is not run. -/
def Host.admission (h : Host) (n : Node) (c : Context) : Except Error (Bool × Record) :=
  match h.flagOr n "passControl" true c with
  | .error e => .error e
  | .ok control =>
    match h.flag n "shared" c with
    | .error e => .error e
    | .ok _ =>
      match h.parameters n c with
      | .error e => .error e
      | .ok parameters =>
        if c.depth < h.config.maxCallDepth then .ok (control, parameters)
        else .error (tooDeep c h.config.maxCallDepth)

theorem Host.admission_ok {h : Host} {n : Node} {c : Context} {control : Bool}
    {parameters : Record} (ha : h.admission n c = .ok (control, parameters)) :
    h.flagOr n "passControl" true c = .ok control ∧ h.parameters n c = .ok parameters := by
  unfold Host.admission at ha
  repeat' split at ha
  all_goals cases ha
  exact ⟨by assumption, by assumption⟩

namespace Run

/-- A call that is not shared and has found its program runs it in a scope of its
own, if it is admitted. -/
theorem call_found {h : Host} {exec : Node → Run Flow} {n : Node} {p : Program} {s t : State}
    (ht : target h n s = (.ok (.ok p), t)) (hshared : h.flag n "shared" t.scope ≠ .ok true) :
    call h exec n s = match h.admission n t.scope with
      | .error e => (.error (.error e), t)
      | .ok (control, parameters) =>
        closeCall h n control p t.scope (sequence exec p.nodes (childState p parameters t)) := by
  rw [call_apply, ht, Host.admission]
  dsimp only
  cases h.flagOr n "passControl" true t.scope with
  | error e => rfl
  | ok control =>
    cases hs : h.flag n "shared" t.scope with
    | error e => rfl
    | ok shared =>
      cases shared with
      | true => exact absurd hs hshared
      | false =>
        simp only [bind_apply, callee, Bool.false_eq_true, if_false, runIsolated_eq]
        cases h.parameters n t.scope with
        | error e => rfl
        | ok parameters =>
          by_cases hdepth : t.scope.depth < h.config.maxCallDepth
          · simp only [if_pos hdepth]
            rcases sequence exec p.nodes (childState p parameters t) with ⟨e | flow, u⟩
            · rfl
            · dsimp only
              rw [passOn_apply]
              rfl
          · simp only [if_neg hdepth]

end Run

/-! ## What the caller sees of a call -/

/-- What a call that is not shared may leave behind that was begun in `s`. -/
inductive Confined (h : Host) (fuel : Nat) (n : Node) (s : State)
    (out : Except Failure Flow × State) : Prop where
  /-- No program was run. -/
  | unopened (result : Except Failure Flow) (programs : ProgramCache)
      (left : out = (result, { s with
        programs := programs
        journal := .ended n.name result :: .began n.name s.scope.depth :: s.journal }))
  /-- A program was run, and came to `child`.  Of what it left in its fields the
  caller's scope `c` has the marked ones, and nothing else of `c` is new. -/
  | opened (p : Program) (programs : ProgramCache) (parameters : Record) (control : Bool)
      (child : Except Failure Flow × State) (c : Context)
      (found : target h n (beginning n s) =
        (.ok (.ok p), { beginning n s with programs := programs }))
      (given : h.parameters n s.scope = .ok parameters)
      (passes : h.flagOr n "passControl" true s.scope = .ok control)
      (run : executeAll h fuel p.nodes
        (childState p parameters { beginning n s with programs := programs }) = child)
      (form : c.form = s.scope.form) (index : c.index = s.scope.index)
      (base : c.base = s.scope.base) (depth : c.depth = s.scope.depth)
      (fields : ∀ name, Record.get? c.fields name =
        if name = "" then Record.get? s.scope.fields name
        else (Record.get? child.2.scope.fields (h.config.exportMarker ++ name)).or
          (Record.get? s.scope.fields name))
      (left : out.2.scope = afterCall n control child.1 c)

namespace Run

/-- The fields of a sub-program stay distinct, for they are none when it begins. -/
theorem distinct_childRun (h : Host) (fuel : Nat) (p : Program) (parameters : Record) (s : State) :
    Record.Distinct
      (executeAll h fuel p.nodes (childState p parameters s)).2.scope.fields :=
  Keeps.sequence ((steady_stayDistinct h).execute_keeps fuel) p.nodes
    (childState p parameters s) Record.distinct_nil

theorem call_confined {h : Host} {n : Node} (hi : h.registry.find? n.name = some .call)
    (fuel : Nat) (s : State) (hshared : h.flag n "shared" s.scope ≠ .ok true) :
    Confined h fuel n s (execute h (fuel + 1) n s) := by
  rw [execute_known hi, perform]
  have hloads := target_loads h n (beginning n s)
  rcases ht : target h n (beginning n s) with ⟨e | flow | p, t⟩
  all_goals
    rw [ht] at hloads
    obtain ⟨programs, rfl⟩ := hloads
  · rw [call_apply, ht]
    exact .unopened _ programs rfl
  · rw [call_apply, ht]
    exact .unopened _ programs rfl
  · rw [call_found ht hshared]
    cases ha : h.admission n (beginning n s).scope with
    | error e => exact .unopened _ programs rfl
    | ok admitted =>
      obtain ⟨control, parameters⟩ := admitted
      obtain ⟨hc, hp⟩ := Host.admission_ok ha
      refine .opened p programs parameters control _
        (s.scope.importFields (Context.exports (executeAll h fuel p.nodes
          (childState p parameters
            { beginning n s with programs := programs })).2.scope h.config.exportMarker))
        ht hp hc rfl rfl rfl rfl rfl (fun name => ?_) rfl
      have hd := distinct_childRun h fuel p parameters { beginning n s with programs := programs }
      rw [Context.importFields, Record.get?_merge _ (Context.distinct_exports hd _),
        Context.get?_exports]
      split <;> rfl

end Run

/-! ## What a call sees of the caller -/

/-- Two scopes that give a call the same: its attributes and the values of its
parameters expand to the same, and of the fields in the form that it passes on both
hold the same. -/
structure SameToCall (h : Host) (n : Node) (c d : Context) : Prop where
  base : d.base = c.base
  depth : d.depth = c.depth
  attributes : ∀ key, h.attr? n key d = h.attr? n key c
  parameters : ∀ child ∈ n.children, child.name = "param" →
    h.attrOrText? child "value" d = h.attrOrText? child "value" c
  passed : ∀ names, h.attr? n "pass" c = .ok names →
    ∀ name ∈ (pieces ',' (names.getD "")).filterMap trimmed?,
      Record.get? d.form name = Record.get? c.form name

/-- Two runs of a call, in the scopes `c` and `d`, that came to the same: of the two
scopes too the same was made, fields written and a reply kept. -/
structure SameOutcome (n : Node) (c d : Context) (out out' : Except Failure Flow × State) :
    Prop where
  result : out'.1 = out.1
  output : out'.2.output = out.2.output
  programs : out'.2.programs = out.2.programs
  journal : out'.2.journal = out.2.journal
  scope : ∃ exported control came,
    out.2.scope = afterCall n control came (c.importFields exported) ∧
      out'.2.scope = afterCall n control came (d.importFields exported)

namespace SameToCall

variable {h : Host} {n : Node} {c d : Context} (hsame : SameToCall h n c d)

include hsame

theorem flagOr (key : String) (absent : Bool) :
    h.flagOr n key absent d = h.flagOr n key absent c := by
  rw [Host.flagOr, Host.flagOr, hsame.attributes]

theorem flag (key : String) : h.flag n key d = h.flag n key c := hsame.flagOr key false

omit hsame in
theorem passedFields_congr {form form' : Record} {names : List String}
    (hform : ∀ name ∈ names, Record.get? form' name = Record.get? form name) :
    passedFields form' names = passedFields form names := by
  refine List.foldl_ext _ _ _ fun r name hname => ?_
  rw [hform name hname]

omit hsame in
theorem addParameters_congr {ns : List Node} (r : Record)
    (hns : ∀ child ∈ ns, h.attrOrText? child "value" d = h.attrOrText? child "value" c) :
    h.addParameters d r ns = h.addParameters c r ns := by
  induction ns generalizing r with
  | nil => rfl
  | cons child ns ih =>
    have hchild : h.parameter child d = h.parameter child c := by
      rw [Host.parameter, Host.parameter, hns child List.mem_cons_self]
    simp only [Host.addParameters, hchild]
    cases h.parameter child c with
    | error e => rfl
    | ok p => exact ih _ fun child' hc => hns child' (List.mem_cons_of_mem _ hc)

/-- The two scopes give the same parameters. -/
theorem parameters_eq : h.parameters n d = h.parameters n c := by
  rw [Host.parameters, Host.parameters, hsame.attributes]
  cases hpass : h.attr? n "pass" c with
  | error e => rfl
  | ok names =>
    dsimp only
    rw [passedFields_congr (hsame.passed names hpass)]
    refine addParameters_congr _ fun child hc => ?_
    obtain ⟨hmem, hname⟩ := List.mem_filter.mp hc
    exact hsame.parameters child hmem (by simpa using hname)

/-- In both scopes the call is admitted alike. -/
theorem admission_eq : h.admission n d = h.admission n c := by
  rw [Host.admission, Host.admission, hsame.flagOr, hsame.flag, hsame.parameters_eq, hsame.depth]
  simp only [tooDeep, hsame.depth]

/-- In both scopes the call finds the same program. -/
theorem target_eq (s : State) : ∃ found programs,
    target h n { s with scope := c } = (found, { s with scope := c, programs := programs }) ∧
      target h n { s with scope := d } = (found, { s with scope := d, programs := programs }) := by
  have hsrc : h.attr n "src" d = h.attr n "src" c := by
    rw [Host.attr, Host.attr, hsame.attributes]
  unfold target
  simp only [bind_apply, ask_apply, scope_apply, load_apply, hsrc]
  cases h.attr n "src" c with
  | error e => exact ⟨_, s.programs, rfl, rfl⟩
  | ok src =>
    simp only [Except.mapError, hsame.base]
    generalize s.programs.load h.source h.registry (resolveReference c.base src) = loaded
    obtain ⟨e | p, programs⟩ := loaded
    · cases e with
      | missingProgram id =>
        simp only [bind_apply, ask_apply, hsame.flag]
        cases h.flag n "inhibit" c with
        | error e => exact ⟨_, programs, rfl, rfl⟩
        | ok inhibited => cases inhibited <;> exact ⟨_, programs, rfl, rfl⟩
      | _ => exact ⟨_, programs, rfl, rfl⟩
    · exact ⟨_, programs, rfl, rfl⟩

end SameToCall

namespace SameOutcome

variable {h : Host} {n : Node} {c d : Context} {out out' : Except Failure Flow × State}

/-- Two runs that left their scopes as they were. -/
theorem untouched (result : Except Failure Flow) (s : State) :
    SameOutcome n c d (result, { s with scope := c }) (result, { s with scope := d }) :=
  ⟨rfl, rfl, rfl, rfl, [], true, .error .outOfFuel, rfl, rfl⟩

/-- Two runs that made the same of the run of a program. -/
theorem closed (control : Bool) (p : Program) (child : Except Failure Flow × State) :
    SameOutcome n c d (closeCall h n control p c child) (closeCall h n control p d child) :=
  ⟨rfl, rfl, rfl, rfl, _, control, child.1, rfl, rfl⟩

theorem ended (ho : SameOutcome n c d out out') :
    SameOutcome n c d
      (out.1, { out.2 with journal := .ended n.name out.1 :: out.2.journal })
      (out'.1, { out'.2 with journal := .ended n.name out'.1 :: out'.2.journal }) :=
  ⟨ho.result, ho.output, ho.programs, by rw [ho.result, ho.journal], ho.scope⟩

end SameOutcome

namespace Run

variable {h : Host} {n : Node} {c d : Context}

theorem call_sameOutcome (exec : Node → Run Flow) (hsame : SameToCall h n c d)
    (hshared : h.flag n "shared" c ≠ .ok true) (s : State) :
    SameOutcome n c d (call h exec n { s with scope := c })
      (call h exec n { s with scope := d }) := by
  obtain ⟨found, programs, hc, hd⟩ := hsame.target_eq s
  rcases found with e | flow | p
  · rw [call_apply, call_apply, hc, hd]
    exact .untouched _ { s with programs := programs }
  · rw [call_apply, call_apply, hc, hd]
    exact .untouched _ { s with programs := programs }
  · have hshared' : h.flag n "shared" d ≠ .ok true := by rwa [hsame.flag]
    rw [call_found hc hshared, call_found hd hshared']
    dsimp only [childState]
    rw [hsame.admission_eq, hsame.depth]
    cases h.admission n c with
    | error e => exact .untouched _ { s with programs := programs }
    | ok admitted => exact .closed admitted.1 p _

/-- **An isolated call neither leaks nor observes.**  Of a call that is not shared
the caller's scope has nothing but the fields marked for export and a reply that is
kept; and in two scopes that give it the same, the call comes to the same. -/
theorem isolated_call_neither_leaks_nor_observes
    (hi : h.registry.find? n.name = some .call) (fuel : Nat) :
    (∀ s : State, h.flag n "shared" s.scope ≠ .ok true →
      Confined h fuel n s (execute h (fuel + 1) n s)) ∧
    ∀ (s : State) (c d : Context), h.flag n "shared" c ≠ .ok true → SameToCall h n c d →
      SameOutcome n c d (execute h (fuel + 1) n { s with scope := c })
        (execute h (fuel + 1) n { s with scope := d }) := by
  refine ⟨fun s hshared => call_confined hi fuel s hshared, fun s c d hshared hsame => ?_⟩
  have hbegan := call_sameOutcome (execute h fuel) hsame hshared
    { s with journal := .began n.name c.depth :: s.journal }
  rw [execute_known hi, execute_known hi]
  simp only [beginning, hsame.depth]
  exact hbegan.ended

/-! ### A call -/

/-- A program that exports what it was given. -/
def totalProgram : List Node :=
  [{ name := "set", attributes := [("ref", "@total"), ("value", "{amount}")] }]

/-- A host with one program, which exports what it was given. -/
def totalHost : Host := Host.ofLibrary (Library.insert {} "total" totalProgram)

/-- A call that passes an amount on. -/
def totalCall : Node := { name := "call", attributes := [("src", "total"), ("pass", "amount")] }

/-- A caller with an amount. -/
def caller : Context := { form := [("amount", .text "10")] }

/-- A caller with the same amount and more. -/
def otherCaller : Context :=
  { fields := [("secret", .text "x")], form := [("amount", .text "10"), ("note", .text "y")],
    index := some 3 }

theorem totalCall_attributes (key : String) :
    totalHost.attr? totalCall key otherCaller = totalHost.attr? totalCall key caller := by
  have hkey : totalCall.attr? key = none ∨ totalCall.attr? key = some "total" ∨
      totalCall.attr? key = some "amount" := by
    unfold Node.attr? totalCall
    simp only [List.find?]
    split <;> simp
    split <;> simp
  rw [Host.attr?, Host.attr?]
  rcases hkey with hk | hk | hk <;> rw [hk]
  · rfl
  · cbv
  · cbv

theorem totalCall_same : SameToCall totalHost totalCall caller otherCaller where
  base := rfl
  depth := rfl
  attributes := totalCall_attributes
  parameters := nofun
  passed names hnames name hname := by
    have hpass : totalHost.attr? totalCall "pass" caller = .ok (some "amount") := by cbv
    have hone : (pieces ',' "amount").filterMap trimmed? = ["amount"] := by decide
    cases hpass.symm.trans hnames
    rw [Option.getD_some, hone] at hname
    rw [List.mem_singleton.mp hname]
    rfl

theorem isolated_call_neither_leaks_nor_observes_totalCall :
    totalHost.registry.find? totalCall.name = some .call ∧
      totalHost.flag totalCall "shared" caller ≠ .ok true ∧
      SameToCall totalHost totalCall caller otherCaller ∧
      Confined totalHost 4 totalCall (State.ofScope caller)
        (execute totalHost 5 totalCall (State.ofScope caller)) ∧
      SameOutcome totalCall caller otherCaller
        (execute totalHost 5 totalCall (State.ofScope caller))
        (execute totalHost 5 totalCall (State.ofScope otherCaller)) := by
  have hflag : totalHost.flag totalCall "shared" caller ≠ .ok true := by
    have hfalse : totalHost.flag totalCall "shared" caller = .ok false := by cbv
    simp [hfalse]
  have hcall := isolated_call_neither_leaks_nor_observes (h := totalHost) (n := totalCall) rfl 4
  exact ⟨rfl, hflag, totalCall_same, hcall.1 _ hflag,
    hcall.2 (State.ofScope caller) caller otherCaller hflag totalCall_same⟩

end Run

end ActionTree
