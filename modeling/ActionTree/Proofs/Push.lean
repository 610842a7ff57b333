import ActionTree.Proofs.Leaf
import ActionTree.Proofs.LoopFold
import ActionTree.Proofs.Paths

/-!
# ActionTree.Proofs.Push

A push appends, and touches nothing else.

1. where there is something it is changed in place; where there is nothing a list is
   written, and the records on the way are made (`push_cases`);
2. either way the list with the new item is found at the path (`slot?_push`), and whatever
   is read at a path that diverges is read as before.

There is one exception.  Behind a position that a list does not have there is nothing, and
writing goes through records only: a push there puts a record in the place of the list, as
every write does.
-/

namespace ActionTree

open Run

namespace Context

variable {c : Context} {p q : String} {v w : Value}

/-- A push changes what is there, or writes where there is nothing. -/
theorem push_cases (c : Context) (p : String) (v : Value) :
    (∃ old c', c.slot? p = some old ∧ c.update? p (fun old => old.append v) = some c' ∧
      c.push p v = c' ∧ c'.slot? p = some (old.append v)) ∨
    (c.slot? p = none ∧ c.push p v = c.set p (.list [v])) := by
  rw [push]
  cases hslot : c.slot? p with
  | some old =>
    obtain ⟨c', hc', hfound⟩ := slot?_update? hslot fun old => old.append v
    exact .inl ⟨old, c', rfl, hc', by rw [hc'], hfound⟩
  | none => exact .inr ⟨rfl, by rw [update?_eq_none hslot]⟩

theorem push_of_slot?_eq_none (h : c.slot? p = none) (v : Value) :
    c.push p v = c.set p (.list [v]) := by
  rw [push, update?_eq_none h]

/-- What is found at the path of a push: what was there, with the item appended. -/
theorem slot?_push (hp : p ≠ "form") (v : Value) :
    (c.push p v).slot? p = some (((c.slot? p).getD .null).append v) := by
  obtain ⟨old, c', hold, -, hpush, hfound⟩ | ⟨hnone, hpush⟩ := push_cases c p v
  · rw [hpush, hold, hfound, Option.getD_some]
  · rw [hpush, slot?_set hp, hnone, Option.getD_none, Value.append]

/-- What is at a path that diverges stays there; where there is nothing to append to, what is
inside of a list on the way does not. -/
theorem slot?_push_of_diverge (hp : p ≠ "form") (hd : c.Diverge p q)
    (hnone : c.slot? p = none → c.DivergeInRecords p q) (hw : c.slot? q = some w) :
    (c.push p v).slot? q = some w := by
  obtain ⟨old, c', -, hupdate, hpush, -⟩ | ⟨hslot, hpush⟩ := push_cases c p v
  · rw [hpush, slot?_update?_of_diverge hupdate hd, hw]
  · rw [hpush, slot?_set_of_diverge hp (hnone hslot) hw]

/-- A push is in the form or in the fields. -/
theorem push_eq (hp : p ≠ "form") (v : Value) :
    ((inForm? p).isSome ∧ ∃ r, c.push p v = { c with form := r }) ∨
    (inForm? p = none ∧ ∃ r, c.push p v = { c with fields := r }) := by
  obtain ⟨old, c', -, hupdate, hpush, -⟩ | ⟨-, hpush⟩ := push_cases c p v
  · obtain ⟨rest, r, hin, -, hc'⟩ | ⟨r, hin, -, hc'⟩ := update?_eq_some hupdate
    · exact .inl ⟨by rw [hin]; rfl, r, hpush.trans hc'⟩
    · exact .inr ⟨hin, r, hpush.trans hc'⟩
  · obtain ⟨rest, hin, hset⟩ | ⟨hin, hset⟩ := set_eq (c := c) hp (.list [v])
    · exact .inl ⟨by rw [hin]; rfl, _, hpush.trans hset⟩
    · exact .inr ⟨hin, _, hpush.trans hset⟩

/-- What a push of `v` at a path makes of a scope. -/
structure Pushed (c c' : Context) (path : String) (v : Value) : Prop where
  onList : ∀ items, c.get path = some (.list items) →
    c'.get path = some (.list (items ++ [v]))
  onNothing : c.get path = none ∨ c.get path = some .null → c'.get path = some (.list [v])
  onOther : ∀ old, c.get path = some old → old ≠ .null → (∀ items, old ≠ .list items) →
    c'.get path = some (.list [old, v])
  /-- At a path that diverges everything is read as before.  Only where there was nothing to
  append to, what was inside of a list on the way is not. -/
  elsewhere : ∀ q w, q ≠ "form" → c.Diverge path q →
    (c.get path = none → c.DivergeInRecords path q) → c.get q = some w → c'.get q = some w
  created : c.get path = none → c' = c.set path (.list [v])
  fields : (inForm? path).isSome → c'.fields = c.fields
  form : inForm? path = none → c'.form = c.form
  stays : c.Stays c'

theorem pushed (hp : c.IsSlot p) (v : Value) : c.Pushed (c.push p v) p v := by
  have hstays : c.Stays (c.push p v) := stays_push c p v
  have hpush : (c.push p v).get p = some (((c.get p).getD .null).append v) := by
    rw [get_eq_slot? (hp.of_index hstays.index), get_eq_slot? hp, slot?_push hp.notForm]
  refine { onList := ?_, onNothing := ?_, onOther := ?_, elsewhere := ?_, created := ?_,
           fields := ?_, form := ?_, stays := hstays }
  · intro items hitems
    rw [hpush, hitems, Option.getD_some, Value.append]
  · intro hnothing
    rw [hpush]
    rcases hnothing with hnone | hnull
    · rw [hnone, Option.getD_none, Value.append]
    · rw [hnull, Option.getD_some, Value.append]
  · intro old hold hnull hlist
    rw [hpush, hold, Option.getD_some]
    cases old with
    | null => exact absurd rfl hnull
    | list items => exact absurd rfl (hlist items)
    | _ => rfl
  · intro q w hq hd hnone hw
    rw [get_eq_slot? hp] at hnone
    exact get_eq_some_of_slot? hstays.index hq (slot?_push_of_diverge hp.notForm hd hnone) hw
  · intro hnone
    rw [get_eq_slot? hp] at hnone
    exact push_of_slot?_eq_none hnone v
  · intro hin
    obtain ⟨-, r, hr⟩ | ⟨hout, -⟩ := push_eq (c := c) hp.notForm v
    · rw [hr]
    · rw [hout] at hin
      contradiction
  · intro hout
    obtain ⟨hin, -⟩ | ⟨-, r, hr⟩ := push_eq (c := c) hp.notForm v
    · rw [hout] at hin
      contradiction
    · rw [hr]

end Context

namespace Run

theorem push_apply (h : Host) (n : Node) (s : State) :
    push h n s = match h.target n s.scope with
      | .error e => (.error (.error e), s)
      | .ok path => match h.literal? n s.scope with
        | .error e => (.error (.error e), s)
        | .ok v => (.ok .next, { s with scope := s.scope.push path (v.getD .null) }) := by
  rw [push, bind_apply, ask_apply]
  cases h.target n s.scope with
  | error e => rfl
  | ok path =>
    simp only [Except.mapError, bind_apply, ask_apply]
    cases h.literal? n s.scope <;> rfl

/-- **A push appends, and touches nothing else.**  At its path the literal is behind the
items of the list that was there, or behind the one other value, or alone if there was nothing
or null; and what is read at any path that diverges is read as before. -/
theorem push_appends (h : Host) (fuel : Nat) (n : Node) (s : State) {path : String}
    {v : Option Value} (hi : h.registry.find? n.name = some .push)
    (htarget : h.target n s.scope = .ok path) (hliteral : h.literal? n s.scope = .ok v)
    (hpath : s.scope.IsSlot path) :
    ∃ c', s.scope.Pushed c' path (v.getD .null) ∧
      execute h (fuel + 1) n s = finished n (.ok .next, { beginning n s with scope := c' }) := by
  refine ⟨_, Context.pushed hpath _, ?_⟩
  have hscope : (beginning n s).scope = s.scope := rfl
  rw [execute_known hi, perform, push_apply, hscope, htarget]
  simp only [hliteral]
  rfl

/-- A node that pushes the text `x` at a path. -/
def pushX (path : String) : Node :=
  { name := "push", attributes := [("ref", path), ("value", "x")] }

/-- A list inside of a list. -/
def nestedLists : Context :=
  { fields := [("a", .list [.list [.int 1], .int 2])], form := [("b", .int 3)], index := some 3 }

theorem push_appends_nested :
    let h := Host.ofLibrary {}
    let s := State.ofScope nestedLists
    (h.registry.find? "push" = some .push ∧ h.target (pushX "a.0") s.scope = .ok "a.0" ∧
      h.literal? (pushX "a.0") s.scope = .ok (some (.text "x")) ∧ s.scope.IsSlot "a.0") ∧
    ∃ c', s.scope.Pushed c' "a.0" (.text "x") ∧
      execute h 1 (pushX "a.0") s =
        finished (pushX "a.0") (.ok .next, { beginning (pushX "a.0") s with scope := c' }) := by
  intro h s
  have hslot : s.scope.IsSlot "a.0" := ⟨by decide, fun h => absurd h (by decide)⟩
  have hliteral : h.literal? (pushX "a.0") s.scope = .ok (some (.text "x")) := by
    cbv
  exact ⟨⟨rfl, rfl, hliteral, hslot⟩,
    push_appends h 0 (pushX "a.0") s rfl rfl hliteral hslot⟩

/-- Behind a position that a list does not have, a push puts a record in the place of the
list.  Of the two names that no value can be changed in place under, a push at `form` leaves
an empty form, and one at `index` is not seen in a loop. -/
theorem push_replaces_list_on_the_way :
    let after path :=
      (execute (Host.ofLibrary {}) 1 (pushX path) (State.ofScope nestedLists)).2.scope
    (nestedLists.Diverge "a.2" "a.1" ∧ nestedLists.get "a.1" = some (.int 2) ∧
      (after "a.2").get "a.1" = none) ∧
    (nestedLists.get "form" = some (.record [("b", .int 3)]) ∧
      (after "form").get "form" = some (.record [])) ∧
    (nestedLists.get "index" = some (.int 3) ∧ (after "index").get "index" = some (.int 3)) := by
  have hsame : ¬ (Value.list [.list [.int 1], .int 2]).SameChild "2" "1" := by
    rw [Value.SameChild]
    decide
  exact ⟨⟨.inr ⟨_, rfl, .inl hsame⟩, by decide +kernel⟩, by decide +kernel⟩

end Run

end ActionTree
