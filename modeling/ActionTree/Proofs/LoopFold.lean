import ActionTree.Proofs.LoopScope

/-!
# ActionTree.Proofs.LoopFold

The loops over lists and rows are folds.

1. a *step* binds one element of a list to the form from before the loop, puts its position
   into the scope, and runs the body once; what the body came to says whether the fold goes
   on (`LoopBody.step`);
2. a traversal is the fold of its steps over the list that it found, first to last or last to
   first, and a loop over rows that over its rows (`traverse_eq_fold`, `reader_eq_fold`);
3. the list that a traversal writes back is the one it found with every position set that a
   step has finished (`visit_eq_foldl`, `listOf_eq_setAll`).

The list and the form of a fold are values from before its first step, so no body can reach
them.
-/

namespace ActionTree

open Run

/-! ## Steps -/

/-- The form of a step: the one from before the loop, with an element bound in it. -/
def boundForm (form : Record) (element : Value) : Option String → Record
  | some field => Record.assign form field element
  | none =>
    match element with
    | .record es => Record.merge form es
    | v => Record.insert form "value" v

/-- How a loop ends behind a round, if it ends there. -/
def Flow.ending? : Flow → Option (Except Failure Flow)
  | next => none
  | skip => none
  | leave => some (.ok next)
  | stop => some (.ok stop)
  | reply r => some (.ok (reply r))

/-- What a loop repeats: its body, the form from before it, the field that elements are bound
to, and the names that are written back. -/
structure LoopBody where
  body : Run Flow
  form : Record
  field : Option String
  updates : List String := []

/-- How far a fold has come: the state, the list with what was written back, and the result
if the fold is over. -/
structure Folded where
  state : State
  items : List Value
  ended : Option (Except Failure Flow) := none

namespace LoopBody

/-- The scope that a step begins in. -/
def begin (l : LoopBody) (c : Context) (element : Value) (position : Nat) : Context :=
  { c with form := boundForm l.form element l.field, index := some position }

/-- One step, with an element and its position; none if the fold is over. -/
def step (l : LoopBody) (f : Folded) (e : Value × Nat) : Folded :=
  match f.ended with
  | some _ => f
  | none =>
    match l.body { f.state with scope := l.begin f.state.scope e.1 e.2 } with
    | (.error failure, s) => ⟨s, f.items, some (.error failure)⟩
    | (.ok flow, s) =>
      ⟨s, f.items.set e.2 (writeBack s.scope l.field l.updates e.1), flow.ending?⟩

/-- The steps over a list, first to last or last to first. -/
def fold (l : LoopBody) (reversed : Bool) (items : List Value) (s : State) : Folded :=
  (if reversed then items.zipIdx.reverse else items.zipIdx).foldl l.step ⟨s, items, none⟩

end LoopBody

/-- The state behind a loop, with the form and the position from before it. -/
def Folded.restored (f : Folded) (c : Context) : State :=
  { f.state with scope := { f.state.scope with form := c.form, index := c.index } }

/-! ## Reference loops -/

/-- A traversal as a fold. -/
def traverseFold (h : Host) (body : Run Flow) (n : Node) (s : State) :
    Except Failure Flow × State :=
  match h.traversal n s.scope with
  | .error e => (.error (.error e), s)
  | .ok t =>
    let f := LoopBody.fold ⟨body, s.scope.form, n.name? "field", t.updates⟩ t.reversed t.items s
    let after := f.restored s.scope
    (f.ended.getD (.ok .next),
      if t.updates = [] then after
      else { after with scope := after.scope.set t.source (.list f.items) })

/-- What a loop over rows comes to behind the last row. -/
def Cursor.result (cursor : Cursor) : Except Failure Flow :=
  match cursor.ending with
  | none => .ok .next
  | some cause => .error (.error (.service cause))

/-- A loop over rows as a fold. -/
def readerFold (h : Host) (body : Run Flow) (n : Node) (s : State) :
    Except Failure Flow × State :=
  match h.attrOrText n "sql" s.scope with
  | .error e => (.error (.error e), s)
  | .ok statement =>
    match consult h (fun db => db.cursor statement) s with
    | (.error failure, t) => (.error failure, t)
    | (.ok cursor, t) =>
      let f := LoopBody.fold ⟨body, t.scope.form, n.name? "field", []⟩ false
        (cursor.rows.map Value.record) t
      (f.ended.getD cursor.result, f.restored t.scope)

/-! ## Positions that are set -/

/-- A list with entries set at their positions. -/
def setAll (items : List Value) (entries : List (Nat × Value)) : List Value :=
  entries.foldl (fun items e => items.set e.1 e.2) items

theorem setAll_eq_self {items : List Value} {entries : List (Nat × Value)}
    (h : ∀ e ∈ entries, items[e.1]? = some e.2) : setAll items entries = items := by
  induction entries with
  | nil => rfl
  | cons e entries ih =>
    rw [List.forall_mem_cons] at h
    have hset : items.set e.1 e.2 = items := by
      obtain ⟨hlt, he⟩ := List.getElem?_eq_some_iff.mp h.1
      rw [← he, List.set_getElem_self]
    rw [setAll, List.foldl_cons, hset]
    exact ih h.2

theorem length_setAll (items : List Value) (entries : List (Nat × Value)) :
    (setAll items entries).length = items.length := by
  induction entries generalizing items with
  | nil => rfl
  | cons e entries ih =>
    rw [setAll, List.foldl_cons, ← setAll, ih, List.length_set]

theorem getElem?_setAll_of_not_mem {items : List Value} {entries : List (Nat × Value)} {p : Nat}
    (h : p ∉ entries.map Prod.fst) : (setAll items entries)[p]? = items[p]? := by
  induction entries generalizing items with
  | nil => rfl
  | cons e entries ih =>
    rw [List.map_cons, List.mem_cons, not_or] at h
    rw [setAll, List.foldl_cons, ← setAll, ih h.2, List.getElem?_set_ne (Ne.symm h.1)]

theorem getElem?_setAll_of_mem {items : List Value} {entries : List (Nat × Value)} {p : Nat}
    {v : Value} (hdistinct : (entries.map Prod.fst).Nodup) (hp : p < items.length)
    (h : (p, v) ∈ entries) : (setAll items entries)[p]? = some v := by
  induction entries generalizing items with
  | nil => contradiction
  | cons e entries ih =>
    rw [List.map_cons, List.nodup_cons] at hdistinct
    rw [setAll, List.foldl_cons, ← setAll]
    rcases List.mem_cons.mp h with rfl | h
    · rw [getElem?_setAll_of_not_mem hdistinct.1, List.getElem?_set_self hp]
    · exact ih hdistinct.2 (by rwa [List.length_set]) h

/-! ## Rounds and steps -/

theorem ending?_eq (flow : Flow) : flow.ending? = flow.ofRound.map Except.ok := by
  cases flow <;> rfl

/-- What a loop binds an element in is what a step begins in. -/
theorem bind_eq_begin (l : LoopBody) (c : Context) {saved : Snapshot} (hsaved : saved.form = l.form)
    (element : Value) (position : Nat) :
    { (c.restore saved).bind element l.field with index := some position } =
      l.begin c element position := by
  obtain ⟨body, form, field, updates⟩ := l
  subst hsaved
  cases field with
  | some field => rfl
  | none => cases element <;> rfl

/-- Behind its end a fold takes no step. -/
theorem foldl_step_of_ended (l : LoopBody) {f : Folded} {result : Except Failure Flow}
    (hf : f.ended = some result) (entries : List (Value × Nat)) :
    entries.foldl l.step f = f := by
  induction entries with
  | nil => rfl
  | cons e entries ih =>
    have hstep : l.step f e = f := by rw [LoopBody.step, hf]
    rw [List.foldl_cons, hstep, ih]

namespace Run

section Loops

variable (h : Host) (exec : Node → Run Flow) (n : Node)

theorem bindElement_apply (l : LoopBody) {saved : Snapshot} (hsaved : saved.form = l.form)
    (element : Value) (position : Nat) (s : State) :
    bindElement saved element l.field position s =
      (.ok (), { s with scope := l.begin s.scope element position }) := by
  rw [bindElement, updateScope_apply, bind_eq_begin l s.scope hsaved]

/-- One visit does what a step does. -/
theorem visitRound_apply (updates : List String) (saved : Snapshot) (position : Nat)
    (element : Value) (s : State) {l : LoopBody}
    (hl : l = ⟨sequence exec n.children, saved.form, n.name? "field", updates⟩) :
    visitRound exec n updates saved position element s =
      match l.body { s with scope := l.begin s.scope element position } with
      | (.ok flow, t) => (.ok (flow, writeBack t.scope l.field l.updates element), t)
      | (.error failure, t) => (.error failure, t) := by
  subst hl
  rw [visitRound, bind_apply, bindElement_apply ⟨_, _, n.name? "field", _⟩ rfl]
  dsimp only
  rw [bind_apply]
  rcases sequence exec n.children _ with ⟨failure | flow, t⟩ <;> rfl

/-- The visits of entries of a list are the steps with these entries, and the list of the fold
is the one from before with all entries set that the visits come to. -/
theorem visit_eq_foldl (updates : List String) (saved : Snapshot) {l : LoopBody}
    (hl : l = ⟨sequence exec n.children, saved.form, n.name? "field", updates⟩)
    (entries : List (Nat × Value)) (items : List Value) (s : State)
    (hdistinct : (entries.map Prod.fst).Nodup) (hitems : ∀ e ∈ entries, items[e.1]? = some e.2) :
    ∃ f visited, (entries.map Prod.swap).foldl l.step ⟨s, items, none⟩ = f ∧
      visited.map Prod.fst = entries.map Prod.fst ∧ f.items = setAll items visited ∧
      visit (visitRound exec n updates saved) entries s =
        (.ok (f.ended.getD (.ok .next), visited), f.state) := by
  induction entries generalizing items s with
  | nil => exact ⟨_, [], rfl, rfl, rfl, rfl⟩
  | cons e entries ih =>
    obtain ⟨position, v⟩ := e
    rw [List.map_cons, List.nodup_cons] at hdistinct
    rw [List.forall_mem_cons] at hitems
    rw [List.map_cons, List.foldl_cons, visit, bind_apply, attempt_apply,
      visitRound_apply exec n updates saved position v s hl]
    simp only [Prod.swap, LoopBody.step]
    rcases l.body { s with scope := l.begin s.scope v position } with ⟨failure | flow, t⟩
    · refine ⟨_, _, foldl_step_of_ended l rfl _, rfl, ?_, rfl⟩
      exact (setAll_eq_self (List.forall_mem_cons.mpr hitems)).symm
    · -- The entries that follow are still at their own positions.
      have hrest (w : Value) : ∀ e ∈ entries, (items.set position w)[e.1]? = some e.2 :=
        fun e he => by
          have hne : position ≠ e.1 :=
            fun heq => hdistinct.1 (List.mem_map.mpr ⟨e, he, heq.symm⟩)
          rw [List.getElem?_set_ne hne, hitems.2 e he]
      dsimp only
      generalize writeBack t.scope l.field l.updates v = w
      rw [ending?_eq]
      cases flow.ofRound with
      | some last =>
        refine ⟨_, (position, w) :: entries, foldl_step_of_ended l rfl _, rfl, ?_, rfl⟩
        exact (setAll_eq_self (hrest w)).symm
      | none =>
        obtain ⟨f, visited, hf, hpositions, hwritten, hvisit⟩ :=
          ih (items.set position w) t hdistinct.2 (hrest w)
        refine ⟨f, (position, w) :: visited, hf, ?_, hwritten, ?_⟩
        · rw [List.map_cons, List.map_cons, hpositions]
        · simp only [bind_apply, hvisit, pure_apply]

/-! ## Traversals -/

theorem visits_eq (t : Traversal) : t.visits.map Prod.swap =
    if t.reversed then t.items.zipIdx.reverse else t.items.zipIdx := by
  rw [Traversal.visits]
  split
  · simp [List.map_reverse, Function.comp_def]
  · simp [Function.comp_def]

theorem positions_visits (t : Traversal) : t.visits.map Prod.fst =
    if t.reversed then (List.range t.items.length).reverse else List.range t.items.length := by
  rw [Traversal.visits]
  split
  · simp [List.map_reverse, Function.comp_def, List.range_eq_range', List.zipIdx_map_snd]
  · simp [Function.comp_def, List.range_eq_range', List.zipIdx_map_snd]

theorem nodup_positions_visits (t : Traversal) : (t.visits.map Prod.fst).Nodup := by
  rw [positions_visits]
  split
  · exact List.nodup_reverse.mpr List.nodup_range
  · exact List.nodup_range

theorem getElem?_of_mem_visits {t : Traversal} {e : Nat × Value} (he : e ∈ t.visits) :
    t.items[e.1]? = some e.2 := by
  have hswap : e.swap ∈ t.visits.map Prod.swap := List.mem_map_of_mem he
  rw [visits_eq] at hswap
  have hmem : e.swap ∈ t.items.zipIdx := by
    split at hswap
    · exact List.mem_reverse.mp hswap
    · exact hswap
  exact List.mem_zipIdx_iff_getElem?.mp hmem

/-- The list that visited items make is the one that was found with all of them set. -/
theorem listOf_eq_setAll (t : Traversal) {visited : List (Nat × Value)}
    (hpositions : visited.map Prod.fst = t.visits.map Prod.fst) :
    t.listOf visited = setAll t.items visited := by
  -- In the order of their positions, the visited items are at all positions there are.
  obtain ⟨ordered, hordered⟩ :
      ∃ ordered, ordered = if t.reversed then visited.reverse else visited := ⟨_, rfl⟩
  have hrange : ordered.map Prod.fst = List.range t.items.length := by
    rw [positions_visits] at hpositions
    rw [hordered]
    split at hpositions
    · rw [if_pos ‹_›, List.map_reverse, hpositions, List.reverse_reverse]
    · rw [if_neg ‹_›, hpositions]
  have hmem (e : Nat × Value) : e ∈ ordered ↔ e ∈ visited := by
    rw [hordered]
    split <;> simp
  have hdistinct : (visited.map Prod.fst).Nodup := hpositions ▸ nodup_positions_visits t
  have hlength : ordered.length = t.items.length := by
    rw [← List.length_map Prod.fst, hrange, List.length_range]
  rw [Traversal.listOf, ← hordered]
  refine List.ext_getElem? fun p => ?_
  by_cases hp : p < t.items.length
  · obtain ⟨e, he, rfl⟩ : ∃ e, ordered[p]? = some e ∧ e.1 = p := by
      have hat : (ordered.map Prod.fst)[p]? = some p := by rw [hrange, List.getElem?_range hp]
      rwa [List.getElem?_map, Option.map_eq_some_iff] at hat
    have hvisited : e ∈ visited := (hmem e).mp (List.mem_of_getElem? he)
    rw [List.getElem?_map, he, getElem?_setAll_of_mem hdistinct hp hvisited]
    rfl
  · have hfound : t.items.length ≤ p := Nat.le_of_not_lt hp
    rw [List.getElem?_eq_none (by rwa [List.length_map, hlength]),
      List.getElem?_eq_none (by rwa [length_setAll])]

/-- **Traversals are folds** over the list that they find. -/
theorem traverse_eq_fold (s : State) :
    traverse h exec n s = traverseFold h (sequence exec n.children) n s := by
  rw [traverseFold]
  cases ht : h.traversal n s.scope with
  | error e =>
    rw [traverse, bind_apply, ask_apply, ht]
    rfl
  | ok t =>
    obtain ⟨f, visited, hf, hpositions, hwritten, hvisit⟩ :=
      visit_eq_foldl exec n t.updates s.scope.save
        (l := ⟨sequence exec n.children, s.scope.form, n.name? "field", t.updates⟩) rfl
        t.visits t.items s (nodup_positions_visits t) fun _ => getElem?_of_mem_visits
    rw [visits_eq] at hf
    have hall : visitAll exec n t s =
        (.ok (f.ended.getD (.ok .next), visited), f.restored s.scope) := by
      rw [visitAll, restoring_apply, hvisit]
      rfl
    obtain ⟨last, visited', u, hall', -, hrun⟩ := traverse_apply h exec n ht
    cases hall.symm.trans hall'
    rw [hrun, listOf_eq_setAll t hpositions, ← hwritten]
    simp only [LoopBody.fold, hf, List.isEmpty_iff]

/-! ## Rows -/

theorem endOfRows_apply (cursor : Cursor) (s : State) :
    endOfRows cursor s = (cursor.result, s) := by
  rw [endOfRows, Cursor.result]
  cases cursor.ending <;> rfl

/-- One round over a row does what a step does. -/
theorem rowRound_apply (saved : Snapshot) (row : Record) (position : Nat) (s : State)
    {l : LoopBody} (hl : l = ⟨sequence exec n.children, saved.form, n.name? "field", []⟩) :
    (do
      bindElement saved (.record row) (n.name? "field") position
      bodyRound exec n : Run (Option Flow)) s =
      match l.body { s with scope := l.begin s.scope (.record row) position } with
      | (.ok flow, t) => (.ok flow.ofRound, t)
      | (.error failure, t) => (.error failure, t) := by
  subst hl
  rw [bind_apply, bindElement_apply ⟨_, _, n.name? "field", _⟩ rfl]
  dsimp only
  rw [bodyRound, bind_apply]
  rcases sequence exec n.children _ with ⟨failure | flow, t⟩ <;> rfl

/-- The rounds over rows are the steps with them, and then the end of the rows. -/
theorem roundsOver_eq_foldl (saved : Snapshot) {l : LoopBody}
    (hl : l = ⟨sequence exec n.children, saved.form, n.name? "field", []⟩) (atEnd : Run Flow)
    (rows : List Record) (position : Nat) (items : List Value) (s : State) :
    ∃ f, ((rows.map Value.record).zipIdx position).foldl l.step ⟨s, items, none⟩ = f ∧
      roundsOver (fun position row => do
          bindElement saved (.record row) (n.name? "field") position
          bodyRound exec n) atEnd rows position s =
        match f.ended with
        | some result => (result, f.state)
        | none => atEnd f.state := by
  induction rows generalizing position items s with
  | nil => exact ⟨_, rfl, rfl⟩
  | cons row rows ih =>
    rw [List.map_cons, List.zipIdx_cons, List.foldl_cons, roundsOver, bind_apply,
      rowRound_apply exec n saved row position s hl]
    simp only [LoopBody.step]
    rcases l.body { s with scope := l.begin s.scope (.record row) position } with
      ⟨failure | flow, t⟩
    · exact ⟨_, foldl_step_of_ended l rfl _, rfl⟩
    · dsimp only
      rw [ending?_eq]
      cases flow.ofRound with
      | some last => exact ⟨_, foldl_step_of_ended l rfl _, rfl⟩
      | none => exact ih (position + 1) _ t

theorem reader_eq_fold (s : State) :
    reader h exec n s = readerFold h (sequence exec n.children) n s := by
  rw [reader, readerFold, bind_apply, ask_apply]
  cases h.attrOrText n "sql" s.scope with
  | error e => rfl
  | ok statement =>
    simp only [Except.mapError, bind_apply]
    rcases consult h (fun db => db.cursor statement) s with ⟨failure | cursor, t⟩
    · rfl
    · obtain ⟨f, hf, hrounds⟩ := roundsOver_eq_foldl exec n t.scope.save
        (l := ⟨sequence exec n.children, t.scope.form, n.name? "field", []⟩) rfl
        (endOfRows cursor) cursor.rows 0 (cursor.rows.map Value.record) t
      simp only [restoring_apply, hrounds, LoopBody.fold, Bool.false_eq_true, if_false, hf]
      cases hended : f.ended with
      | some result => rfl
      | none =>
        rw [endOfRows_apply]
        rfl

/-- The items of a traversal are the list at its source. -/
theorem traversal_items {c : Context} {t : Traversal} (ht : h.traversal n c = .ok t) :
    listAt n t.source c = .ok t.items := by
  unfold Host.traversal at ht
  repeat' split at ht
  all_goals cases ht
  next hlist => exact hlist

end Loops

/-! ## Nodes -/

/-- What a node leaves whose instruction has come to something. -/
def finished (n : Node) (out : Except Failure Flow × State) : Except Failure Flow × State :=
  (out.1, { out.2 with journal := .ended n.name out.1 :: out.2.journal })

/-- **Loops over lists and rows are folds.**  Whatever its body is, a traversal runs it once
for each item of the list that was at its source, in the order of their positions or against
it, and a loop over rows once for each row: every time with the form from before the loop, the
item bound in it, and everything else as the body left it the time before.  A loop goes on
behind `next` and `skip`; `leave` ends it with `next`, and anything else as it is. -/
theorem list_loops_are_folds (h : Host) (fuel : Nat) (n : Node) (s : State) :
    let body := sequence (execute h fuel) n.children
    (h.registry.find? n.name = some .traverse →
      execute h (fuel + 1) n s = finished n (traverseFold h body n (beginning n s)) ∧
        ∀ t, h.traversal n s.scope = .ok t → listAt n t.source s.scope = .ok t.items) ∧
    (h.registry.find? n.name = some .reader →
      execute h (fuel + 1) n s = finished n (readerFold h body n (beginning n s))) := by
  refine ⟨fun hi => ⟨?_, fun t ht => traversal_items h n ht⟩, fun hi => ?_⟩
  · rw [execute_known hi, perform, traverse_eq_fold]
    rfl
  · rw [execute_known hi, perform, reader_eq_fold]
    rfl

/-- A loop over two rows that fails behind the second. -/
def readBoth : Node :=
  { name := "reader", attributes := [("sql", "rows"), ("field", "row")],
    children := [{ name := "set", attributes := [("ref", "state"), ("value", "read")] }] }

/-- A database that fails behind two rows, whatever the statement. -/
def twoRows : Database where
  rows sql := ⟨some sql, .ok []⟩
  cursor sql := ⟨some sql, .ok ⟨[[("id", .int 1)], [("id", .int 2)]], some (.database "lost")⟩⟩

theorem list_loops_are_folds_twoRows :
    let h := { Host.ofLibrary {} with services := { database := some twoRows } }
    let s := State.ofScope twoItems
    h.registry.find? renameFirst.name = some .traverse ∧
      execute h 5 renameFirst s = finished renameFirst
        (traverseFold h (sequence (execute h 4) renameFirst.children) renameFirst
          (beginning renameFirst s)) ∧
    h.registry.find? readBoth.name = some .reader ∧
      execute h 5 readBoth s = finished readBoth
        (readerFold h (sequence (execute h 4) readBoth.children) readBoth
          (beginning readBoth s)) :=
  ⟨rfl, ((list_loops_are_folds _ 4 renameFirst _).1 rfl).1,
    rfl, (list_loops_are_folds _ 4 readBoth _).2 rfl⟩

end Run

end ActionTree
