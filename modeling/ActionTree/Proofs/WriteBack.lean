import ActionTree.Proofs.Footprint
import ActionTree.Proofs.LoopFold
import ActionTree.Proofs.Paths

/-!
# ActionTree.Proofs.WriteBack

What a traversal writes back.

1. an element is written back if the body came to a flow with it, and all others stay as
   they were (`foldl_step_items`);
2. in an element that is a record only the listed names are written, each with what the form
   holds under it (`writeBack_record`).  What is bound and left as it was bound is not changed
   by being written back, if the names are the element's own (`writeBack_bound`);
3. the list is read at a path that may lead through lists, and it is written at that path,
   which goes through records only.  So nothing but the list is changed if and only if no
   list is on the way (`write_back_keeps_the_rest_iff`).
-/

namespace ActionTree

open Run Text

/-! ## Names -/

/-- The part of a form that a name is written back from. -/
theorem get_updatePath (c : Context) (field : Option String) (name : String) :
    c.get (updatePath field name) =
      Record.lookup c.form (match field with
        | some f => f ++ "." ++ name
        | none => name) := by
  cases field with
  | some f =>
    have hin : Context.inForm? (updatePath (some f) name) = some (f ++ "." ++ name) :=
      stripStart_eq_some.mpr (by simp only [updatePath, String.append_assoc])
    rw [Context.get, hin]
  | none =>
    have hin : Context.inForm? (updatePath none name) = some name := stripStart_eq_some.mpr rfl
    rw [Context.get, hin]

namespace Record

/-- A name without a dot is a key. -/
theorem lookup_of_not_mem {name : String} (hname : '.' ∉ name.toList) (r : Record) :
    lookup r name = get? r name := by
  rw [lookup, pathSegments, pieces_of_not_mem hname, Value.descend?, Value.child?]
  cases get? r name <;> rfl

/-- Behind a path and a dot is what is inside of the value that was written at the path. -/
theorem lookup_assign_dot (r : Record) (path : String) (v : Value) (name : String) :
    lookup (assign r path v) (path ++ "." ++ name) = v.descend? (pathSegments name) := by
  have hfound : (Value.record (assign r path v)).descend? (pathSegments path) = some v :=
    lookup_assign r path v
  rw [lookup, pathSegments_dot, Value.descend?_append, hfound, Option.bind_some]

end Record

/-! ## Elements -/

theorem writeBackName_record (c : Context) (field : Option String) (es : Record) (name : String) :
    writeBackName c field (.record es) name = .record (match c.get (updatePath field name) with
      | some w => Record.insert es name w
      | none => es) := by
  rw [writeBackName]
  cases c.get (updatePath field name) <;> rfl

/-- A record stays a record; what the form holds of the listed names is in it, and else it is
as it was. -/
theorem writeBack_record (c : Context) (field : Option String) (names : List String)
    (es : Record) :
    ∃ es', writeBack c field names (.record es) = .record es' ∧
      ∀ key, Record.get? es' key =
        if key ∈ names then (c.get (updatePath field key)).or (Record.get? es key)
        else Record.get? es key := by
  induction names generalizing es with
  | nil => exact ⟨es, rfl, fun key => by rw [if_neg List.not_mem_nil]⟩
  | cons name names ih =>
    obtain ⟨es₁, hes₁⟩ : ∃ es₁, es₁ = match c.get (updatePath field name) with
      | some w => Record.insert es name w
      | none => es := ⟨_, rfl⟩
    have hfirst (key : String) : Record.get? es₁ key =
        if key = name then (c.get (updatePath field name)).or (Record.get? es name)
        else Record.get? es key := by
      rw [hes₁]
      cases c.get (updatePath field name) with
      | some w => simp only [Record.get?_insert, Option.some_or, eq_comm]
      | none =>
        by_cases hkey : key = name
        · simp only [hkey, if_true, Option.none_or]
        · simp only [hkey, if_false]
    obtain ⟨es', hes', hkeys⟩ := ih es₁
    refine ⟨es', ?_, fun key => ?_⟩
    · rw [writeBack, List.foldl_cons, writeBackName_record, ← hes₁]
      exact hes'
    · rw [hkeys, hfirst]
      by_cases hname : key = name
      · subst hname
        simp only [if_true, List.mem_cons_self]
        split
        · cases c.get (updatePath field key) <;> rfl
        · rfl
      · simp only [List.mem_cons, hname, false_or, if_false]

theorem writeBack_eq_self {c : Context} {field : Option String} {names : List String} {v : Value}
    (h : ∀ name ∈ names, writeBackName c field v name = v) : writeBack c field names v = v := by
  induction names with
  | nil => rfl
  | cons name names ih =>
    rw [List.forall_mem_cons] at h
    rw [writeBack, List.foldl_cons, h.1]
    exact ih h.2

/-- The names that a loop writes back are an element's own: if it is a record, they are keys,
and the form that it is bound in has none of them that it lacks. -/
def LoopBody.Owns (l : LoopBody) (element : Value) : Prop :=
  ∀ es, element = .record es → Record.Distinct es ∧ ∀ name ∈ l.updates, '.' ∉ name.toList ∧
    (l.field = none → Record.get? es name = none → Record.get? l.form name = none)

/-- There is nothing under the name `value` in what is not a record. -/
theorem descend?_value {v : Value} (hv : ∀ es, v ≠ .record es) :
    v.descend? (pathSegments "value") = none := by
  have hsegments : pathSegments "value" = ["value"] := by decide
  rw [hsegments]
  cases v with
  | record es => exact absurd rfl (hv es)
  | list vs =>
    have hposition : position? "value" = none := by decide
    simp only [Value.descend?, Value.child?, hposition]
  | _ => rfl

/-- Into what is not a record only the name `value` is written, and in its place. -/
theorem writeBackName_of_not_record {v : Value} (hv : ∀ es, v ≠ .record es) (c : Context)
    (field : Option String) (name : String) :
    writeBackName c field v name =
      if name = "value" then (c.get (updatePath field "value")).getD v else v := by
  rw [writeBackName]
  by_cases hvalue : name = "value"
  · subst hvalue
    cases c.get (updatePath field "value") with
    | none => rfl
    | some w =>
      cases v with
      | record es => exact absurd rfl (hv es)
      | _ => rfl
  · rw [if_neg hvalue]
    cases c.get (updatePath field name) with
    | none => rfl
    | some w =>
      cases v with
      | record es => exact absurd rfl (hv es)
      | _ => exact if_neg hvalue

section Bound

variable {l : LoopBody} {c : Context} {element w : Value}

/-- What is found under a name in the form that an element was bound in is the element's own
entry. -/
theorem get_bound_name {es : Record} {name : String}
    (hform : c.form = boundForm l.form (.record es) l.field) (howns : l.Owns (.record es))
    (hname : name ∈ l.updates) (hw : c.get (updatePath l.field name) = some w) :
    Record.get? es name = some w := by
  obtain ⟨hdistinct, hnames⟩ := howns es rfl
  obtain ⟨hplain, hown⟩ := hnames name hname
  rw [get_updatePath, hform] at hw
  cases hfield : l.field with
  | some f =>
    rw [hfield, boundForm, Record.lookup_assign_dot] at hw
    exact (Record.lookup_of_not_mem hplain es).symm.trans hw
  | none =>
    rw [hfield, boundForm, Record.lookup_of_not_mem hplain, Record.get?_merge _ hdistinct] at hw
    cases hes : Record.get? es name with
    | some w' => rwa [hes, Option.some_or] at hw
    | none =>
      rw [hes, Option.none_or, hown hfield hes] at hw
      contradiction

/-- What is not a record is found under `value` itself, or not at all. -/
theorem get_bound_value (hform : c.form = boundForm l.form element l.field)
    (hno : ∀ es, element ≠ .record es) (hw : c.get (updatePath l.field "value") = some w) :
    w = element := by
  rw [get_updatePath, hform] at hw
  cases hfield : l.field with
  | some f =>
    rw [hfield, boundForm, Record.lookup_assign_dot, descend?_value hno] at hw
    contradiction
  | none =>
    have hplain : '.' ∉ "value".toList := by decide
    have hbound : boundForm l.form element none = Record.insert l.form "value" element := by
      cases element with
      | record es => exact absurd rfl (hno es)
      | _ => rfl
    rw [hfield, hbound, Record.lookup_of_not_mem hplain, Record.get?_insert_self] at hw
    exact (Option.some.inj hw).symm

/-- What was bound and left as it was bound is not changed by being written back. -/
theorem writeBack_bound (hform : c.form = boundForm l.form element l.field)
    (howns : l.Owns element) : writeBack c l.field l.updates element = element := by
  refine writeBack_eq_self fun name hname => ?_
  by_cases hrecord : ∃ es, element = .record es
  · obtain ⟨es, rfl⟩ := hrecord
    rw [writeBackName_record]
    cases hw : c.get (updatePath l.field name) with
    | none => rfl
    | some w =>
      simp only [Record.insert_eq_self (get_bound_name hform howns hname hw)]
  · have hno (es : Record) : element ≠ .record es := fun h => hrecord ⟨es, h⟩
    rw [writeBackName_of_not_record hno]
    split
    · cases hw : c.get (updatePath l.field "value") with
      | none => rfl
      | some w => rw [Option.getD_some, get_bound_value hform hno hw]
    · rfl

end Bound

/-! ## Lists -/

/-- A round of a loop whose body came to a flow: where it was, with which element, and the
scope behind it. -/
structure Round where
  position : Nat
  element : Value
  last : Context

namespace LoopBody

/-- The rounds of a loop over entries that came to a flow, in their order.  A round that fails
is not one of them, and none follows a round that ends the loop. -/
def completed (l : LoopBody) : List (Nat × Value) → State → List Round
  | [], _ => []
  | (position, element) :: entries, s =>
    match l.body { s with scope := l.begin s.scope element position } with
    | (.error _, _) => []
    | (.ok flow, t) => ⟨position, element, t.scope⟩ ::
      match flow.ofRound with
      | some _ => []
      | none => l.completed entries t

/-- The entry of a list that a round has written back. -/
def writtenBack (l : LoopBody) (r : Round) : Nat × Value :=
  (r.position, writeBack r.last l.field l.updates r.element)

theorem completed_prefix (l : LoopBody) (entries : List (Nat × Value)) (s : State) :
    (l.completed entries s).map (fun r => (r.position, r.element)) <+: entries := by
  induction entries generalizing s with
  | nil => exact List.prefix_rfl
  | cons e entries ih =>
    obtain ⟨position, element⟩ := e
    rw [completed]
    rcases l.body { s with scope := l.begin s.scope element position } with ⟨failure | flow, t⟩
    · exact List.nil_prefix
    · dsimp only
      rw [List.map_cons, List.prefix_cons_inj]
      cases flow.ofRound with
      | some last => exact List.nil_prefix
      | none => exact ih t

/-- The list of a fold is the one it began with, and in it every element that a round has
written back. -/
theorem foldl_step_items (l : LoopBody) (entries : List (Nat × Value)) (items : List Value)
    (s : State) :
    ((entries.map Prod.swap).foldl l.step ⟨s, items, none⟩).items =
      setAll items ((l.completed entries s).map l.writtenBack) := by
  induction entries generalizing items s with
  | nil => rfl
  | cons e entries ih =>
    obtain ⟨position, element⟩ := e
    rw [List.map_cons, List.foldl_cons, completed]
    simp only [Prod.swap, step]
    rcases l.body { s with scope := l.begin s.scope element position } with ⟨failure | flow, t⟩
    · rw [foldl_step_of_ended l rfl]
      rfl
    · dsimp only
      rw [ending?_eq]
      cases flow.ofRound with
      | some last =>
        rw [foldl_step_of_ended l rfl]
        rfl
      | none => exact ih _ t

/-- What rounds have made of a list. -/
structure Written (l : LoopBody) (rounds : List Round) (items items' : List Value) : Prop where
  length : items'.length = items.length
  bound : ∀ r ∈ rounds, items[r.position]? = some r.element
  untouched : ∀ p, (∀ r ∈ rounds, r.position ≠ p) → items'[p]? = items[p]?
  /-- A record stays a record.  In it are the listed names that the form held behind the
  round, and under all other keys is what was there. -/
  records : ∀ r ∈ rounds, ∀ es, r.element = .record es →
    ∃ es', items'[r.position]? = some (.record es') ∧
      (∀ name ∈ l.updates, '.' ∉ name.toList → ∀ w,
        r.last.get (updatePath l.field name) = some w → Record.lookup es' name = some w) ∧
      ∀ key, (key ∈ l.updates → r.last.get (updatePath l.field key) = none) →
        Record.get? es' key = Record.get? es key
  /-- What was left as it was bound is as it was, if the listed names are its own. -/
  kept : ∀ r ∈ rounds, r.last.form = boundForm l.form r.element l.field → l.Owns r.element →
    items'[r.position]? = some r.element
  same : (∀ r ∈ rounds, r.last.form = boundForm l.form r.element l.field ∧ l.Owns r.element) →
    items' = items

/-- The rounds over the visits of a list make of it what is said of them. -/
theorem written_setAll (l : LoopBody) (t : Traversal) (s : State) :
    l.Written (l.completed t.visits s) t.items
      (setAll t.items ((l.completed t.visits s).map l.writtenBack)) := by
  obtain ⟨rounds, hrounds⟩ : ∃ rounds, rounds = l.completed t.visits s := ⟨_, rfl⟩
  obtain ⟨items', hitems'⟩ :
      ∃ items', items' = setAll t.items (rounds.map l.writtenBack) := ⟨_, rfl⟩
  rw [← hrounds, ← hitems']
  have hstart : rounds.map (fun r => (r.position, r.element)) <+: t.visits :=
    hrounds ▸ l.completed_prefix t.visits s
  have hpositions : (rounds.map l.writtenBack).map Prod.fst = rounds.map Round.position := by
    rw [List.map_map]
    rfl
  have hdistinct : ((rounds.map l.writtenBack).map Prod.fst).Nodup := by
    have hsub := (hstart.map Prod.fst).sublist
    rw [List.map_map] at hsub
    exact hpositions ▸ (nodup_positions_visits t).sublist hsub
  have hbound (r : Round) (hr : r ∈ rounds) : t.items[r.position]? = some r.element :=
    getElem?_of_mem_visits (hstart.subset (List.mem_map_of_mem hr))
  have hwritten (r : Round) (hr : r ∈ rounds) :
      items'[r.position]? = some (writeBack r.last l.field l.updates r.element) := by
    obtain ⟨hlt, -⟩ := List.getElem?_eq_some_iff.mp (hbound r hr)
    rw [hitems']
    exact getElem?_setAll_of_mem hdistinct hlt (List.mem_map_of_mem (f := l.writtenBack) hr)
  have huntouched (p : Nat) (hp : ∀ r ∈ rounds, r.position ≠ p) :
      items'[p]? = t.items[p]? := by
    rw [hitems']
    refine getElem?_setAll_of_not_mem fun hmem => ?_
    rw [hpositions] at hmem
    obtain ⟨r, hr, hrp⟩ := List.mem_map.mp hmem
    exact hp r hr hrp
  have hkept (r : Round) (hr : r ∈ rounds)
      (hform : r.last.form = boundForm l.form r.element l.field) (howns : l.Owns r.element) :
      items'[r.position]? = some r.element := by
    rw [hwritten r hr, writeBack_bound hform howns]
  refine { length := hitems' ▸ length_setAll _ _, bound := hbound, untouched := huntouched,
           records := ?_, kept := hkept, same := ?_ }
  · intro r hr es hes
    obtain ⟨es', hes', hkeys⟩ := writeBack_record r.last l.field l.updates es
    refine ⟨es', by rw [hwritten r hr, hes, hes'], ?_, ?_⟩
    · intro name hname hplain w hw
      rw [Record.lookup_of_not_mem hplain, hkeys, if_pos hname, hw, Option.some_or]
    · intro key hkey
      rw [hkeys]
      split
      · next hmem => rw [hkey hmem, Option.none_or]
      · rfl
  · intro hsame
    refine List.ext_getElem? fun p => ?_
    by_cases hp : ∃ r ∈ rounds, r.position = p
    · obtain ⟨r, hr, rfl⟩ := hp
      obtain ⟨hform, howns⟩ := hsame r hr
      rw [hkept r hr hform howns, hbound r hr]
    · exact huntouched p fun r hr hrp => hp ⟨r, hr, hrp⟩

/-! ## The scope behind a traversal -/

theorem restored_isSlot {c : Context} {path : String} (hslot : c.IsSlot path) (f : Folded) :
    (f.restored c).scope.IsSlot path := hslot.of_index rfl

theorem restored_scope {f : Folded} {c : Context} (hfields : f.state.scope.fields = c.fields)
    (hbase : f.state.scope.base = c.base) (hdepth : f.state.scope.depth = c.depth) :
    (f.restored c).scope = c := by
  obtain ⟨fields, form, index, base, depth⟩ := c
  simp only [Folded.restored, hfields, hbase, hdepth]

/-- A round whose body leaves the fields alone changes nothing of a scope but its form and its
position. -/
theorem step_restored {l : LoopBody} {c : Context} {f : Folded} {e : Value × Nat}
    (hbody : ∀ u, u.scope = l.begin c e.1 e.2 → (l.body u).2.scope.fields = c.fields)
    (hanchored : Keeps Anchored l.body) (hf : (f.restored c).scope = c) :
    ((l.step f e).restored c).scope = c := by
  rw [step]
  split
  · exact hf
  · obtain ⟨u, hu⟩ :
        ∃ u, u = { f.state with scope := l.begin f.state.scope e.1 e.2 } := ⟨_, rfl⟩
    have hscope : u.scope = l.begin c e.1 e.2 := by
      rw [hu, ← hf]
      rfl
    have hfields := hbody u hscope
    have hplace := hanchored u
    rw [← hu]
    rcases hrun : l.body u with ⟨failure | flow, t⟩
    all_goals
      rw [hrun] at hfields hplace
      have hbase : t.scope.base = c.base := hplace.base.trans (by rw [hscope]; rfl)
      have hdepth : t.scope.depth = c.depth := hplace.depth.trans (by rw [hscope]; rfl)
      exact restored_scope hfields hbase hdepth

theorem foldl_step_restored {l : LoopBody} {c : Context} (entries : List (Value × Nat))
    (hbody : ∀ e ∈ entries, ∀ u, u.scope = l.begin c e.1 e.2 →
      (l.body u).2.scope.fields = c.fields)
    (hanchored : Keeps Anchored l.body) {f : Folded} (hf : (f.restored c).scope = c) :
    ((entries.foldl l.step f).restored c).scope = c := by
  induction entries generalizing f with
  | nil => exact hf
  | cons e entries ih =>
    rw [List.forall_mem_cons] at hbody
    exact ih hbody.2 (step_restored hbody.1 hanchored hf)

end LoopBody

namespace Run

variable {h : Host} {fuel : Nat} {n : Node} {s : State} {t : Traversal} {items : List Value}

/-- What a traversal repeats. -/
def traverseBody (h : Host) (fuel : Nat) (n : Node) (c : Context) (t : Traversal) : LoopBody where
  body := sequence (execute h fuel) n.children
  form := c.form
  field := n.name? "field"
  updates := t.updates

/-- Behind a traversal that writes back, the list that its rounds have made is at the path of
the list that was found. -/
theorem traverse_scope (fuel : Nat) (hi : h.registry.find? n.name = some .traverse)
    (ht : h.traversal n s.scope = .ok t) (hupdates : t.updates ≠ []) :
    let l := traverseBody h fuel n s.scope t
    (execute h (fuel + 1) n s).2.scope =
      ((((t.visits.map Prod.swap).foldl l.step ⟨beginning n s, t.items, none⟩).restored
        s.scope).scope).set t.source
        (.list (setAll t.items ((l.completed t.visits (beginning n s)).map l.writtenBack))) := by
  intro l
  have ht' : h.traversal n (beginning n s).scope = .ok t := ht
  rw [← l.foldl_step_items, visits_eq, execute_known hi, perform, traverse_eq_fold, traverseFold,
    ht']
  simp only [if_neg hupdates]
  rfl

theorem traversal_items_eq (ht : h.traversal n s.scope = .ok t)
    (hlist : s.scope.get t.source = some (.list items)) : t.items = items := by
  have hfound := traversal_items h n ht
  rw [listAt, hlist] at hfound
  exact (Except.ok.inj hfound).symm

/-- **A traversal writes back what its body has made of its elements.**  The list keeps its
length; an element that the loop did not come to, or that its body failed with, is as it was;
of a record only the listed names are written, each with what the form held under it behind
the round of the record; and if the body has left the form as it was bound, nothing is
changed, unless the form from before the loop holds a listed name that a record lacks. -/
theorem write_back_is_what_rounds_left (hi : h.registry.find? n.name = some .traverse)
    (ht : h.traversal n s.scope = .ok t) (hupdates : t.updates ≠ [])
    (hlist : s.scope.get t.source = some (.list items)) :
    let l := traverseBody h fuel n s.scope t
    ∃ items', (execute h (fuel + 1) n s).2.scope.get t.source = some (.list items') ∧
      l.Written (l.completed t.visits (beginning n s)) items items' := by
  intro l
  obtain rfl := traversal_items_eq ht hlist
  have hslot := Context.isSlot_of_list hlist
  refine ⟨_, ?_, l.written_setAll t (beginning n s)⟩
  rw [traverse_scope fuel hi ht hupdates]
  exact Context.get_set (LoopBody.restored_isSlot hslot _) _

/-- A node that traverses the list at a path and writes one name back. -/
def traversing (source name : String) (body : List Node) : Node :=
  { name := "traverse", attributes := [("source", source), ("update", name)], children := body }

/-- A node that sets a text at a path. -/
def setting (path text : String) : Node :=
  { name := "set", attributes := [("ref", path), ("value", text)] }

/-- A list of one record, beside a form with a name that the record lacks. -/
def oneRow : Context :=
  { fields := [("rows", .list [.record [("n", .int 1)]])], form := [("label", .text "outer")] }

theorem write_back_is_what_rounds_left_oneRow :
    let h := Host.ofLibrary {}
    let n := traversing "rows" "n" [setting "form.n" "2"]
    let s := State.ofScope oneRow
    let rows : List Value := [.record [("n", .int 1)]]
    let t : Traversal := ⟨"rows", false, ["n"], rows⟩
    let l := traverseBody h 1 n oneRow t
    (h.registry.find? n.name = some .traverse ∧ h.traversal n oneRow = .ok t ∧
      oneRow.get "rows" = some (.list rows)) ∧
    ∃ items', (execute h 2 n s).2.scope.get "rows" = some (.list items') ∧
      l.Written (l.completed t.visits (beginning n s)) rows items' := by
  intro h n s rows t l
  have ht : h.traversal n oneRow = .ok t := by cbv
  have hlist : oneRow.get "rows" = some (.list rows) := by decide +kernel
  exact ⟨⟨rfl, ht, hlist⟩,
    write_back_is_what_rounds_left (s := s) rfl ht (List.cons_ne_nil _ _) hlist⟩

/-- A record, one entry of which is a record. -/
def nestedRow : Context :=
  { fields := [("rows", .list [.record [("a", .record [("b", .int 1)])]])] }

/-- A body that does nothing does not keep a listed name of the enclosing form from being
written into a record that lacks it; and a name with a dot is read as a path and written as a
key, so it is not found where it was read. -/
theorem write_back_takes_outer_name :
    let after n c := (execute (Host.ofLibrary {}) 2 n (State.ofScope c)).2.scope
    let label := traversing "rows" "label" []
    let inner := traversing "rows" "a.b" [setting "form.a.b" "2"]
    (oneRow.get "rows" = some (.list [.record [("n", .int 1)]]) ∧
      (after label oneRow).get "rows" =
        some (.list [.record [("n", .int 1), ("label", .text "outer")]])) ∧
    (after inner nestedRow).get "rows.0.a.b" = some (.int 1) := by
  decide +kernel

/-- **A traversal that writes back changes nothing but its list if and only if no list is on
the way to it.**  Its body is taken to leave the fields alone.  Putting the list from before
the loop back in the place of the one behind it then gives the scope from before the loop,
however the loop ended. -/
theorem write_back_keeps_the_rest_iff (hi : h.registry.find? n.name = some .traverse)
    (ht : h.traversal n s.scope = .ok t) (hupdates : t.updates ≠ [])
    (hlist : s.scope.get t.source = some (.list items))
    (hbody : ∀ e ∈ t.visits, ∀ u,
      u.scope = (traverseBody h fuel n s.scope t).begin s.scope e.2 e.1 →
      (sequence (execute h fuel) n.children u).2.scope.fields = s.scope.fields) :
    let out := execute h (fuel + 1) n s
    (∃ items', out.2.scope.get t.source = some (.list items')) ∧
      (out.2.scope.update? t.source (fun _ => .list items) = some s.scope ↔
        ¬ s.scope.ThroughList t.source) := by
  intro out
  have hslot := Context.isSlot_of_list hlist
  have hanchored : Keeps Anchored (sequence (execute h fuel) n.children) :=
    .sequence ((steady_anchored h).execute_keeps fuel) n.children
  have hrestored := LoopBody.foldl_step_restored (l := traverseBody h fuel n s.scope t)
    (c := s.scope) (f := ⟨beginning n s, t.items, none⟩) (t.visits.map Prod.swap)
    (fun e he => by
      obtain ⟨visit, hvisit, rfl⟩ := List.mem_map.mp he
      exact hbody visit hvisit) hanchored rfl
  have hscope := traverse_scope fuel hi ht hupdates
  dsimp only at hscope
  rw [hrestored] at hscope
  refine ⟨⟨_, by rw [hscope, Context.get_set hslot]⟩, ?_⟩
  rw [hscope]
  exact Context.update?_set_iff hslot.notForm ((Context.get_eq_slot? hslot).symm.trans hlist) _

/-- The list of one row, inside of a record. -/
def rowsInside : Context :=
  { fields := [("data", .record [("rows", .list [.record [("n", .int 1)]]), ("id", .int 7)])] }

theorem write_back_keeps_the_rest_iff_rowsInside :
    let h := Host.ofLibrary {}
    let n := traversing "data.rows" "n" [setting "form.n" "2"]
    let s := State.ofScope rowsInside
    let rows : List Value := [.record [("n", .int 1)]]
    let t : Traversal := ⟨"data.rows", false, ["n"], rows⟩
    let out := execute h 2 n s
    (h.registry.find? n.name = some .traverse ∧ h.traversal n rowsInside = .ok t ∧
      rowsInside.get "data.rows" = some (.list rows)) ∧
    (∃ items', out.2.scope.get "data.rows" = some (.list items')) ∧
      ¬ rowsInside.ThroughList "data.rows" ∧
      out.2.scope.update? "data.rows" (fun _ => .list rows) = some rowsInside := by
  intro h n s rows t out
  have ht : h.traversal n rowsInside = .ok t := by cbv
  have hlist : rowsInside.get "data.rows" = some (.list rows) := by decide +kernel
  have hway : ¬ rowsInside.ThroughList "data.rows" := by
    have hin : Context.inForm? "data.rows" = none := by decide +kernel
    have hsegments : pathSegments "data.rows" = ["data", "rows"] := by decide +kernel
    rw [Context.ThroughList, hin]
    dsimp only
    rw [hsegments, rowsInside, Record.throughList_cons rfl, Record.throughList_cons rfl]
    exact not_false
  -- The one visit sets an entry of the form, whatever the rest of the state is.
  have hbody : ∀ e ∈ t.visits, ∀ u : State,
      u.scope = (traverseBody h 1 n s.scope t).begin s.scope e.2 e.1 →
      (sequence (execute h 1) n.children u).2.scope.fields = s.scope.fields := by
    rintro e he ⟨scope, output, programs, journal⟩ hscope
    obtain rfl : e = (0, .record [("n", .int 1)]) := List.mem_singleton.mp he
    obtain rfl : scope = _ := hscope
    rfl
  obtain ⟨hfound, hback⟩ :=
    write_back_keeps_the_rest_iff (s := s) rfl ht (List.cons_ne_nil _ _) hlist hbody
  exact ⟨⟨rfl, ht, hlist⟩, hfound, hway, hback.mpr hway⟩

/-- Two orders, the first one with items. -/
def twoOrders : Context :=
  { fields := [("orders", .list [
      .record [("items", .list [.record [("n", .int 1)]]), ("id", .int 7)],
      .record [("id", .int 8)]])] }

/-- Behind a traversal of the items of an order the other order is lost, and what else there
was in this one. -/
theorem write_back_loses_siblings :
    let n := traversing "orders.0.items" "n" []
    let after := (execute (Host.ofLibrary {}) 2 n (State.ofScope twoOrders)).2.scope
    twoOrders.get "orders.0.id" = some (.int 7) ∧ twoOrders.get "orders.1.id" = some (.int 8) ∧
      after.get "orders.0.id" = none ∧ after.get "orders.1.id" = none ∧
      after.get "orders" =
        some (.record [("0", .record [("items", .list [.record [("n", .int 1)]])])]) := by
  decide +kernel

end Run

end ActionTree
