import ActionTree.Proofs.Paths

/-!
# ActionTree.Proofs.Addressing

The accessors of a scope go by one addressing.

1. reading, writing, changing in place and removing take a path apart each in its own way, and
   each looks at the form, at the fields and at the reserved names by itself;
2. at a path that is read where it is written all four mean one place: what was written is read,
   what is read is what can be changed, and what an entry of a record held is gone once it was
   removed (`Context.accessors_agree_iff`);
3. two names are no such paths: `form`, which is the form as a whole, and `index` while a loop
   has a position.

Removing needs keys that are distinct.  A second entry under the key would be found where the
first was removed.
-/

namespace ActionTree

open Text

/-! ## Distinct keys throughout -/

namespace Value

/-- Every record in a value has distinct keys. -/
inductive Proper : Value → Prop
  | null : Proper null
  | boolean (b : Bool) : Proper (boolean b)
  | number (n : Number) : Proper (number n)
  | text (s : String) : Proper (text s)
  | list {vs : List Value} (items : ∀ v ∈ vs, v.Proper) : Proper (list vs)
  | record {es : List (String × Value)} (distinct : Record.Distinct es)
      (entries : ∀ e ∈ es, e.2.Proper) : Proper (record es)

theorem Proper.child? {v w : Value} {s : String} (hv : v.Proper) (h : v.child? s = some w) :
    w.Proper := by
  cases hv with
  | list items =>
    rw [Value.child?] at h
    split at h
    · exact items w (List.mem_of_getElem? h)
    · contradiction
  | record distinct entries => exact entries (s, w) ((Record.mem_iff_get? distinct).mpr h)
  | _ => contradiction

/-- Whatever a path leads to has distinct keys throughout. -/
theorem Proper.descend? {v w : Value} {ss : List String} (hv : v.Proper)
    (h : v.descend? ss = some w) : w.Proper := by
  induction ss generalizing v with
  | nil => exact Option.some.inj h ▸ hv
  | cons s ss ih =>
    obtain ⟨u, hu, huw⟩ := descend?_cons_eq_some.mp h
    exact ih (hv.child? hu) huw

/-- The last of the segments is a key in the record that the others lead to. -/
def HoldsEntry (v : Value) (ss : List String) : Prop :=
  ∃ front key es, ss = front ++ [key] ∧ v.descend? front = some (record es)

end Value

/-! ## Removing from a record -/

namespace Record

/-- A path ends with the segment behind its last dot. -/
theorem pathSegments_of_cutLast {path parent key : String}
    (h : cutLast '.' path = some (parent, key)) :
    pathSegments path = pathSegments parent ++ [key] := pieces_of_cutLast h

theorem pathSegments_of_no_dot {path : String} (h : cutLast '.' path = none) :
    pathSegments path = [path] := pieces_of_not_mem (cutLast_eq_none_iff.mp h)

/-- What an entry of a record holds can be removed, and is not found any more. -/
theorem remove?_of_holdsEntry {r : Record} {path : String} {w : Value}
    (hr : (Value.record r).Proper) (hholds : (Value.record r).HoldsEntry (pathSegments path))
    (hw : lookup r path = some w) :
    ∃ r', remove? r path = some (w, r') ∧ lookup r' path = none := by
  obtain ⟨front, key, es, hsegments, hes⟩ := hholds
  have hdistinct : Distinct es := by
    cases hr.descend? hes with
    | record distinct _ => exact distinct
  have hentry : get? es key = some w := by
    rw [lookup, hsegments, Value.descend?_append, hes] at hw
    obtain ⟨u, hu, hlast⟩ := Value.descend?_cons_eq_some.mp hw
    exact hu.trans hlast
  have hgone : (Value.record (erase es key)).descend? [key] = none := by
    rw [Value.descend?, Value.child?, get?_erase hdistinct, if_pos rfl]
  cases hcut : cutLast '.' path with
  | none =>
    rw [pathSegments_of_no_dot hcut] at hsegments
    obtain ⟨rfl, rfl⟩ : front = [] ∧ key = path := by
      cases front with
      | nil => exact ⟨rfl, (List.singleton_inj.mp hsegments).symm⟩
      | cons s ss => simp at hsegments
    obtain rfl : r = es := Value.record.inj (Option.some.inj hes)
    refine ⟨erase r key, ?_, ?_⟩
    · rw [remove?, hcut]
      simp only [hentry]
    · rw [lookup, pathSegments_of_no_dot hcut, hgone]
  | some parts =>
    obtain ⟨parent, last⟩ := parts
    rw [pathSegments_of_cutLast hcut] at hsegments
    obtain ⟨rfl, hlast⟩ := List.append_inj' hsegments rfl
    obtain rfl := List.singleton_inj.mp hlast
    obtain ⟨r', hr', hfound⟩ := lookup_update? hes fun _ => .record (erase es last)
    refine ⟨r', ?_, ?_⟩
    · rw [remove?, hcut]
      simp only [show lookup r parent = some (.record es) from hes, hentry, hr']
    · rw [lookup] at hfound ⊢
      rw [pathSegments_of_cutLast hcut, Value.descend?_append, hfound, Option.bind_some, hgone]

end Record

/-! ## Scopes -/

namespace Context

/-- The keys of every record in the fields and in the form are distinct. -/
structure Proper (c : Context) : Prop where
  fields : (Value.record c.fields).Proper
  form : (Value.record c.form).Proper

/-- A path leads to an entry of a record, in the form or in the fields. -/
def HoldsEntry (c : Context) (path : String) : Prop :=
  match inForm? path with
  | some rest => (Value.record c.form).HoldsEntry (pathSegments rest)
  | none => (Value.record c.fields).HoldsEntry (pathSegments path)

variable {c : Context} {p : String} {v w : Value}

/-- What an entry of a record holds can be removed, and its slot is empty then. -/
theorem remove?_of_holdsEntry (hc : c.Proper) (hholds : c.HoldsEntry p) (hw : c.slot? p = some w) :
    ∃ c', c.remove? p = some (w, c') ∧ c'.slot? p = none ∧ c'.index = c.index := by
  unfold HoldsEntry at hholds
  unfold slot? at hw
  unfold remove? slot?
  cases hin : inForm? p with
  | some rest =>
    rw [hin] at hholds hw
    obtain ⟨r, hr, hgone⟩ := Record.remove?_of_holdsEntry hc.form hholds hw
    exact ⟨{ c with form := r }, by simp only [hr, Option.map_some], hgone, rfl⟩
  | none =>
    rw [hin] at hholds hw
    obtain ⟨r, hr, hgone⟩ := Record.remove?_of_holdsEntry hc.fields hholds hw
    exact ⟨{ c with fields := r }, by simp only [hr, Option.map_some], hgone, rfl⟩

/-- The accessors of a scope mean one place by a path, whatever is written there. -/
structure Addresses (c : Context) (p : String) (v : Value) : Prop where
  /-- What is written is read. -/
  written : (c.set p v).get p = some v
  /-- What is read is what can be changed in place. -/
  slot : c.slot? p = c.get p
  /-- What is put into a slot is read. -/
  stored : ∀ w, c.get p = some w → ∃ c', c.update? p (fun _ => v) = some c' ∧ c'.get p = some v
  /-- Where nothing is read nothing can be changed. -/
  absent : c.get p = none → c.update? p (fun _ => v) = none
  /-- What an entry of a record holds can be removed, and is not read any more. -/
  removed : c.Proper → ∀ w, c.get p = some w → c.HoldsEntry p →
    ∃ c', c.remove? p = some (w, c') ∧ c'.get p = none

theorem IsSlot.addresses (hp : c.IsSlot p) (v : Value) : c.Addresses p v := by
  have hslot : c.slot? p = c.get p := (get_eq_slot? hp).symm
  refine ⟨get_set hp v, hslot, ?_, ?_, ?_⟩
  · intro w hw
    obtain ⟨c', hc', hfound⟩ := slot?_update? (hslot.trans hw) fun _ => v
    have hindex : c'.index = c.index := by
      obtain ⟨-, -, -, -, rfl⟩ | ⟨-, -, -, rfl⟩ := update?_eq_some hc'
      · rfl
      · rfl
    exact ⟨c', hc', (get_eq_slot? (hp.of_index hindex)).trans hfound⟩
  · intro hnone
    exact update?_eq_none (hslot.trans hnone) fun _ => v
  · intro hc w hw hholds
    obtain ⟨c', hc', hgone, hindex⟩ := remove?_of_holdsEntry hc hholds (hslot.trans hw)
    exact ⟨c', hc', (get_eq_slot? (hp.of_index hindex)).trans hgone⟩

/-- The form is read as a record, whatever was written. -/
theorem get_set_form (c : Context) (v : Value) :
    (c.set "form" v).get "form" = some (.record (v.record?.getD [])) := by
  rw [get_form]
  rfl

/-- In a loop the position is read, whatever was written. -/
theorem get_set_index {i : Nat} (hi : c.index = some i) (v : Value) :
    (c.set "index" v).get "index" = some (.nat i) := by
  obtain ⟨rest, -, hset⟩ | ⟨-, hset⟩ := set_eq (c := c) (p := "index") (by decide) v
  · rw [hset]
    exact get_index hi
  · rw [hset]
    exact get_index hi

/-- **The accessors of a scope go by one addressing** at a path if and only if it is a slot: any
path but `form` and, while a loop has a position, `index`.  Of the two, `form` is still read as it
was written if it was written a record. -/
theorem accessors_agree_iff (c : Context) (p : String) :
    ((∀ v, c.Addresses p v) ↔ c.IsSlot p) ∧
      ∀ es, (c.set "form" (.record es)).get "form" = some (.record es) := by
  refine ⟨⟨fun h => ⟨?_, ?_⟩, fun hp v => hp.addresses v⟩, fun es => get_set_form c _⟩
  · rintro rfl
    have hnull := (h .null).written
    rw [get_set_form] at hnull
    contradiction
  · rintro rfl
    have hnull := (h .null).written
    cases hindex : c.index with
    | none => rfl
    | some i =>
      simp [get_set_index hindex, Value.nat] at hnull

/-- A scope in a loop, with a record as its form. -/
def thirdRound : Context := { form := [("name", .text "Ada")], index := some 2 }

/-- At the two reserved names it is not read what was written, and what is read cannot be
changed in place. -/
theorem reserved_names_are_no_slots :
    ((thirdRound.set "form" (.int 5)).get "form" = some (.record []) ∧
      thirdRound.get "form" = some (.record [("name", .text "Ada")]) ∧
      thirdRound.slot? "form" = none) ∧
    ((thirdRound.set "index" (.int 5)).get "index" = some (.int 2) ∧
      thirdRound.get "index" = some (.int 2) ∧ thirdRound.slot? "index" = none) := by
  decide +kernel

end Context

end ActionTree
