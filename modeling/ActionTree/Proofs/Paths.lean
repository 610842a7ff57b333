import ActionTree.Context
import ActionTree.Proofs.Record
import ActionTree.Proofs.Segments

/-!
# ActionTree.Proofs.Paths

Laws of reading and writing at paths.

1. two paths *diverge* in a value if, behind a common way, they come to different children:
   to different entries of a record, or to different positions of a list.  In a list `1`
   and `01` are one position, so they do not diverge there (`Value.Diverge`);
2. changing what is there changes it at its path and at no path that diverges from it
   (`descend?_modify?`, `descend?_modify?_of_diverge`);
3. writing goes through records only.  What was written is found at its path in any case
   (`descend?_assignAt`), and what is at a path that diverges in a record is left alone
   (`descend?_assignAt_of_diverge`);
4. what was written over can be put back where it was if and only if no list is on the way
   (`modify?_assignAt_iff`).

The same laws hold of a scope, where a path leads into the form or into the fields.
-/

namespace ActionTree

open Text

/-! ## Records -/

namespace Record

/-- Of two values written under one key the later stays. -/
theorem insert_insert (r : Record) (key : String) (v w : Value) :
    insert (insert r key v) key w = insert r key w := by
  induction r with
  | nil => simp [insert]
  | cons e es ih =>
    obtain ⟨k, u⟩ := e
    by_cases h : k = key
    · simp [insert, h]
    · simp [insert, h, ih]

/-- Writing what is there changes nothing. -/
theorem insert_eq_self {r : Record} {key : String} {v : Value} (h : get? r key = some v) :
    insert r key v = r := by
  induction r with
  | nil => contradiction
  | cons e es ih =>
    obtain ⟨k, u⟩ := e
    by_cases hk : k = key
    · simp only [get?, if_pos hk, Option.some.injEq] at h
      simp [insert, hk, h]
    · simp only [get?, if_neg hk] at h
      simp [insert, hk, ih h]

/-- Only writing what is there changes nothing. -/
theorem insert_eq_self_iff {r : Record} {key : String} {v w : Value} (h : get? r key = some v) :
    insert r key w = r ↔ w = v := by
  constructor
  · intro heq
    have hw := get?_insert_self r key w
    rw [heq, h, Option.some.injEq] at hw
    exact hw.symm
  · rintro rfl
    exact insert_eq_self h

end Record

/-! ## Children -/

namespace Value

/-- Two segments name one child of a value: one key of a record, one position of a list. -/
def SameChild : Value → String → String → Prop
  | list _, s, t => position? s = position? t
  | _, s, t => s = t

theorem child?_record (es : Record) (s : String) : (record es).child? s = Record.get? es s := rfl

theorem child?_eq_of_sameChild {v : Value} {s t : String} (h : v.SameChild s t) :
    v.child? s = v.child? t := by
  cases v with
  | list vs => rw [child?, child?, show position? s = position? t from h]
  | _ => rw [show s = t from h]

theorem child?_setChild {v w : Value} {s : String} (h : v.child? s = some w) (w' : Value) :
    (v.setChild s w').child? s = some w' := by
  cases v with
  | record es => exact Record.get?_insert_self es s w'
  | list vs =>
    rw [child?] at h
    cases hp : position? s with
    | none =>
      rw [hp] at h
      contradiction
    | some i =>
      rw [hp] at h
      obtain ⟨hi, -⟩ := List.getElem?_eq_some_iff.mp h
      simp only [setChild, child?, hp]
      exact List.getElem?_set_self hi
  | _ => contradiction

theorem child?_setChild_of_not_sameChild {v : Value} {s t : String} (h : ¬ v.SameChild s t)
    (w : Value) : (v.setChild s w).child? t = v.child? t := by
  cases v with
  | record es => exact Record.get?_insert_of_ne (Ne.symm h)
  | list vs =>
    simp only [setChild]
    cases hs : position? s with
    | none => rfl
    | some i =>
      simp only [child?]
      cases ht : position? t with
      | none => rfl
      | some j =>
        have hij : i ≠ j := fun hij => h (by rw [SameChild, hs, ht, hij])
        exact List.getElem?_set_ne hij
  | _ => rfl

theorem setChild_sameChild (v w : Value) (s a b : String) :
    (v.setChild s w).SameChild a b ↔ v.SameChild a b := by
  cases v with
  | list vs =>
    simp only [setChild]
    split <;> rfl
  | _ => rfl

/-! ## Ways -/

/-- Behind a common way two lists of segments come to different children. -/
def Diverge : Value → List String → List String → Prop
  | v, s :: ss, t :: ts => ¬ v.SameChild s t ∨ ∃ w, v.child? s = some w ∧ w.Diverge ss ts
  | _, _, _ => False

/-- Behind a common way through records two lists of segments come to different entries. -/
def DivergeInRecords : Value → List String → List String → Prop
  | record es, s :: ss, t :: ts =>
    s ≠ t ∨ ∃ es', Record.get? es s = some (record es') ∧ (record es').DivergeInRecords ss ts
  | _, _, _ => False

/-- The segments go on inside a list. -/
def ThroughList : Value → List String → Prop
  | list _, _ :: _ => True
  | record es, s :: ss => ∃ w, Record.get? es s = some w ∧ w.ThroughList ss
  | _, _ => False

theorem descend?_cons (v : Value) (s : String) (ss : List String) :
    v.descend? (s :: ss) = (v.child? s).bind fun w => w.descend? ss := by
  rw [descend?]
  cases v.child? s <;> rfl

theorem modify?_cons (f : Value → Value) (v : Value) (s : String) (ss : List String) :
    v.modify? f (s :: ss) =
      (v.child? s).bind fun w => (w.modify? f ss).map fun w' => v.setChild s w' := by
  rw [modify?]
  cases v.child? s with
  | none => rfl
  | some w =>
    simp only [Option.bind_some]
    cases w.modify? f ss <;> rfl

theorem descend?_cons_eq_some {v x : Value} {s : String} {ss : List String} :
    v.descend? (s :: ss) = some x ↔ ∃ w, v.child? s = some w ∧ w.descend? ss = some x := by
  rw [descend?_cons, Option.bind_eq_some_iff]

theorem descend?_append (v : Value) (ss ts : List String) :
    v.descend? (ss ++ ts) = (v.descend? ss).bind fun w => w.descend? ts := by
  induction ss generalizing v with
  | nil => rfl
  | cons s ss ih =>
    rw [List.cons_append, descend?_cons, descend?_cons]
    cases v.child? s with
    | none => rfl
    | some w => exact ih w

theorem modify?_cons_eq_some {f : Value → Value} {v v' : Value} {s : String} {ss : List String} :
    v.modify? f (s :: ss) = some v' ↔
      ∃ w w', v.child? s = some w ∧ w.modify? f ss = some w' ∧ v.setChild s w' = v' := by
  simp only [modify?_cons, Option.bind_eq_some_iff, Option.map_eq_some_iff, exists_and_left]

/-! ## Changing what is there -/

/-- What is there can be changed, and what it was changed into is found. -/
theorem descend?_modify? (f : Value → Value) {v w : Value} {ss : List String}
    (h : v.descend? ss = some w) :
    ∃ v', v.modify? f ss = some v' ∧ v'.descend? ss = some (f w) := by
  induction ss generalizing v with
  | nil =>
    obtain rfl : v = w := Option.some.inj h
    exact ⟨f v, rfl, rfl⟩
  | cons s ss ih =>
    rw [descend?_cons_eq_some] at h
    obtain ⟨u, hc, hu⟩ := h
    obtain ⟨u', hmodify, hfound⟩ := ih hu
    refine ⟨v.setChild s u', ?_, ?_⟩
    · rw [modify?_cons_eq_some]
      exact ⟨u, u', hc, hmodify, rfl⟩
    · rw [descend?_cons_eq_some]
      exact ⟨u', child?_setChild hc u', hfound⟩

/-- Only what is there can be changed. -/
theorem descend?_of_modify? {f : Value → Value} {v v' : Value} {ss : List String}
    (h : v.modify? f ss = some v') : ∃ w, v.descend? ss = some w := by
  induction ss generalizing v v' with
  | nil => exact ⟨v, rfl⟩
  | cons s ss ih =>
    rw [modify?_cons_eq_some] at h
    obtain ⟨u, u', hc, hm, -⟩ := h
    obtain ⟨w, hw⟩ := ih hm
    refine ⟨w, ?_⟩
    rw [descend?_cons_eq_some]
    exact ⟨u, hc, hw⟩

/-- At a path that diverges a change leaves everything as it was. -/
theorem descend?_modify?_of_diverge {f : Value → Value} {v v' : Value} {ss ts : List String}
    (h : v.modify? f ss = some v') (hd : v.Diverge ss ts) : v'.descend? ts = v.descend? ts := by
  induction ss generalizing v v' ts with
  | nil => exact hd.elim
  | cons s ss ih =>
    cases ts with
    | nil => exact hd.elim
    | cons t ts =>
      rw [modify?_cons_eq_some] at h
      obtain ⟨w, w', hc, hm, rfl⟩ := h
      by_cases hsame : v.SameChild s t
      · have hafter : (v.setChild s w').child? t = some w' := by
          rw [← child?_eq_of_sameChild ((setChild_sameChild v w' s s t).mpr hsame),
            child?_setChild hc]
        obtain ⟨u, hu, hud⟩ := hd.resolve_left (not_not.mpr hsame)
        obtain rfl : w = u := Option.some.inj (hc.symm.trans hu)
        rw [descend?_cons, descend?_cons, hafter, ← child?_eq_of_sameChild hsame, hc]
        exact ih hm hud
      · rw [descend?_cons, descend?_cons, child?_setChild_of_not_sameChild hsame]

end Value

/-! ## Writing -/

namespace Record

/-- What is written at segments is found there. -/
theorem descend?_assignAt (r : Record) {ss : List String} (hss : ss ≠ []) (v : Value) :
    (Value.record (assignAt r ss v)).descend? ss = some v := by
  induction ss generalizing r with
  | nil => contradiction
  | cons s ss ih =>
    cases ss with
    | nil =>
      rw [Value.descend?_cons_eq_some]
      exact ⟨v, get?_insert_self r s v, rfl⟩
    | cons t ts =>
      rw [Value.descend?_cons_eq_some]
      exact ⟨_, get?_insert_self r s _, ih _ (List.cons_ne_nil t ts)⟩

/-- The record that is written into at the first of several segments. -/
def inner (r : Record) (key : String) : Record :=
  match get? r key with
  | some (.record es) => es
  | _ => []

theorem assignAt_cons (r : Record) (s t : String) (ts : List String) (v : Value) :
    assignAt r (s :: t :: ts) v = insert r s (.record (assignAt (inner r s) (t :: ts) v)) := rfl

theorem inner_eq {r es : Record} {key : String} (h : get? r key = some (.record es)) :
    inner r key = es := by
  rw [inner, h]

/-- What is at a path that diverges in a record stays there. -/
theorem descend?_assignAt_of_diverge {r : Record} {ss ts : List String} {v w : Value}
    (hd : (Value.record r).DivergeInRecords ss ts) (hw : (Value.record r).descend? ts = some w) :
    (Value.record (assignAt r ss v)).descend? ts = some w := by
  induction ss generalizing r ts with
  | nil => exact hd.elim
  | cons s ss ih =>
    cases ts with
    | nil => exact hd.elim
    | cons t ts =>
      rw [Value.descend?_cons_eq_some] at hw
      obtain ⟨u, hu, huw⟩ := hw
      by_cases hst : s = t
      · subst hst
        obtain ⟨es, hes, hud⟩ := hd.resolve_left (not_not.mpr rfl)
        obtain rfl : .record es = u := Option.some.inj (hes.symm.trans hu)
        cases ss with
        | nil => exact hud.elim
        | cons s' ss =>
          rw [assignAt_cons, inner_eq hu]
          rw [Value.descend?_cons_eq_some]
          exact ⟨_, get?_insert_self r s _, ih hud huw⟩
      · obtain ⟨x, hx⟩ : ∃ x, assignAt r (s :: ss) v = insert r s x := by
          cases ss with
          | nil => exact ⟨v, rfl⟩
          | cons t ts => exact ⟨_, rfl⟩
        rw [hx]
        rw [Value.descend?_cons_eq_some]
        exact ⟨u, (get?_insert_of_ne (Ne.symm hst)).trans hu, huw⟩

/-- A change behind an entry that was just written. -/
theorem modify?_insert (r : Record) (s : String) (v : Value) (f : Value → Value)
    (ss : List String) :
    (Value.record (insert r s v)).modify? f (s :: ss) =
      (v.modify? f ss).map fun w => .record (insert r s w) := by
  rw [Value.modify?_cons, Value.child?_record, get?_insert_self, Option.bind_some]
  refine congrArg (Option.map · _) (funext fun w => ?_)
  exact congrArg Value.record (insert_insert r s v w)

theorem throughList_cons {r : Record} {s : String} {v : Value} (h : get? r s = some v)
    (ss : List String) : (Value.record r).ThroughList (s :: ss) ↔ v.ThroughList ss := by
  constructor
  · rintro ⟨w, hw, hthrough⟩
    obtain rfl : w = v := Option.some.inj (hw.symm.trans h)
    exact hthrough
  · exact fun hthrough => ⟨v, h, hthrough⟩

/-- What was written over can be put back where it was if and only if no list is on the
way. -/
theorem modify?_assignAt_iff {r : Record} {ss : List String} {v w : Value} (hss : ss ≠ [])
    (hw : (Value.record r).descend? ss = some w) :
    (Value.record (assignAt r ss v)).modify? (fun _ => w) ss = some (.record r) ↔
      ¬ (Value.record r).ThroughList ss := by
  induction ss generalizing r with
  | nil => contradiction
  | cons s ss ih =>
    rw [Value.descend?_cons_eq_some] at hw
    obtain ⟨u, hu, huw⟩ := hw
    rw [throughList_cons hu]
    cases ss with
    | nil =>
      obtain rfl : u = w := Option.some.inj huw
      have hback : insert r s u = r := insert_eq_self hu
      refine iff_of_true ?_ (by cases u <;> exact not_false)
      rw [assignAt, modify?_insert]
      exact congrArg (some ∘ Value.record) hback
    | cons t ts =>
      rw [assignAt_cons, modify?_insert]
      simp only [Option.map_eq_some_iff, Value.record.injEq, insert_eq_self_iff hu]
      cases u with
      | record es => simp only [exists_eq_right, inner_eq hu, ih (List.cons_ne_nil t ts) huw]
      | list vs =>
        -- What was made in the list's place is a record, and stays one.
        refine iff_of_false ?_ (not_not.mpr trivial)
        rintro ⟨x, hx, rfl⟩
        rw [Value.modify?_cons_eq_some] at hx
        obtain ⟨y, y', -, -, hset⟩ := hx
        contradiction
      | _ => contradiction

/-! ### Dotted paths -/

theorem update?_eq_some {r r' : Record} {path : String} {f : Value → Value} :
    update? r path f = some r' ↔
      (Value.record r).modify? f (pathSegments path) = some (.record r') := by
  rw [update?]
  split
  · next es h => rw [h, Option.some.injEq, Option.some.injEq, Value.record.injEq]
  · next h => exact iff_of_false (Option.some_ne_none r').symm fun h' => h r' h'

/-- What is there can be changed, and what it was changed into is found. -/
theorem lookup_update? {r : Record} {path : String} {w : Value} (h : lookup r path = some w)
    (f : Value → Value) : ∃ r', update? r path f = some r' ∧ lookup r' path = some (f w) := by
  obtain ⟨v, hv, hfound⟩ := Value.descend?_modify? f h
  obtain ⟨r', rfl⟩ : ∃ r', v = .record r' := by
    obtain ⟨s, ss, hss⟩ := List.exists_cons_of_ne_nil (pathSegments_ne_nil path)
    rw [hss] at hv
    rw [Value.modify?_cons_eq_some] at hv
    obtain ⟨u, u', -, -, rfl⟩ := hv
    exact ⟨_, rfl⟩
  exact ⟨r', update?_eq_some.mpr hv, hfound⟩

/-- Only what is there can be changed. -/
theorem update?_eq_none {r : Record} {path : String} (h : lookup r path = none)
    (f : Value → Value) : update? r path f = none := by
  rw [Option.eq_none_iff_forall_ne_some]
  intro r' hr'
  obtain ⟨w, hw⟩ := Value.descend?_of_modify? (update?_eq_some.mp hr')
  exact absurd (h.symm.trans hw) nofun

theorem lookup_assign (r : Record) (path : String) (v : Value) :
    lookup (assign r path v) path = some v := descend?_assignAt r (pathSegments_ne_nil path) v

/-- What was written over can be put back where it was if and only if no list is on the
way. -/
theorem update?_assign_iff {r : Record} {path : String} {w : Value} (hw : lookup r path = some w)
    (v : Value) : update? (assign r path v) path (fun _ => w) = some r ↔
      ¬ (Value.record r).ThroughList (pathSegments path) := by
  rw [update?_eq_some]
  exact modify?_assignAt_iff (pathSegments_ne_nil path) hw

/-- Segments on both sides of a dot are segments on their own. -/
theorem pathSegments_dot (a b : String) :
    pathSegments (a ++ "." ++ b) = pathSegments a ++ pathSegments b := by
  have hcut : (a ++ "." ++ b).toList = a.toList ++ '.' :: b.toList := by simp
  rw [pathSegments, pieces, hcut, piecesOf_append_cons, List.map_append]
  rfl

end Record

/-! ## Scopes -/

namespace Context

/-- A path that is read where it is written: it stands neither for the form as a whole nor
for the position of a loop. -/
structure IsSlot (c : Context) (path : String) : Prop where
  notForm : path ≠ "form"
  notPosition : path = "index" → c.index = none

/-- Only one of two paths leads into the form, or they diverge in the record that both lead
into. -/
def Diverge (c : Context) (p q : String) : Prop :=
  match inForm? p, inForm? q with
  | some a, some b => (Value.record c.form).Diverge (pathSegments a) (pathSegments b)
  | none, none => (Value.record c.fields).Diverge (pathSegments p) (pathSegments q)
  | _, _ => True

/-- Only one of two paths leads into the form, or behind a common way through records they
come to different entries. -/
def DivergeInRecords (c : Context) (p q : String) : Prop :=
  match inForm? p, inForm? q with
  | some a, some b => (Value.record c.form).DivergeInRecords (pathSegments a) (pathSegments b)
  | none, none => (Value.record c.fields).DivergeInRecords (pathSegments p) (pathSegments q)
  | _, _ => True

/-- A list is on the way along a path. -/
def ThroughList (c : Context) (path : String) : Prop :=
  match inForm? path with
  | some rest => (Value.record c.form).ThroughList (pathSegments rest)
  | none => (Value.record c.fields).ThroughList (pathSegments path)

variable {c c' : Context} {p q : String} {f : Value → Value} {v w : Value}

/-- Only the position makes a difference to what a slot is. -/
theorem IsSlot.of_index (hp : c.IsSlot p) (hindex : c'.index = c.index) : c'.IsSlot p :=
  ⟨hp.notForm, fun h => hindex.trans (hp.notPosition h)⟩

theorem get_eq_slot? (hp : c.IsSlot p) : c.get p = c.slot? p := by
  rw [get, slot?]
  cases hin : inForm? p with
  | some rest => rfl
  | none =>
    have hindex : (if p = "index" then c.index else none) = none := by
      split
      · next h => exact hp.notPosition h
      · rfl
    simp only [if_neg hp.notForm, hindex]

/-- Outside of the form, slots are in the fields. -/
theorem slot?_eq_of_fields (hp : inForm? p = none) (h : c'.fields = c.fields) :
    c'.slot? p = c.slot? p := by
  rw [slot?, slot?, hp, h]

theorem inForm?_eq_none (h : startsWith formPrefix p = false) : inForm? p = none := by
  rw [inForm?, stripStart, Option.map_eq_none_iff]
  exact Option.not_isSome_iff_eq_none.mp (Bool.eq_false_iff.mp h)

theorem get_form (c : Context) : c.get "form" = some (.record c.form) := by
  have hin : inForm? "form" = none := by decide
  rw [get, hin]
  rfl

theorem get_index {i : Nat} (h : c.index = some i) : c.get "index" = some (.nat i) := by
  have hin : inForm? "index" = none := by decide
  rw [get, hin, h]
  rfl

/-- Neither the form as a whole nor a position is a list. -/
theorem isSlot_of_list {items : List Value} (h : c.get p = some (.list items)) : c.IsSlot p where
  notForm := by
    rintro rfl
    rw [get_form, Option.some.injEq] at h
    contradiction
  notPosition := by
    rintro rfl
    cases hindex : c.index with
    | none => rfl
    | some i =>
      rw [get_index hindex, Option.some.injEq] at h
      contradiction

/-- Whatever is read at a path but the form as a whole is read as before if nothing is lost in
the slots, and the position is the same. -/
theorem get_eq_some_of_slot? (hindex : c'.index = c.index) (hq : q ≠ "form")
    (hslot : c.slot? q = some w → c'.slot? q = some w) (hw : c.get q = some w) :
    c'.get q = some w := by
  by_cases hposition : q = "index" → c.index = none
  · have hc : c.IsSlot q := ⟨hq, hposition⟩
    rw [get_eq_slot? hc] at hw
    rw [get_eq_slot? (hc.of_index hindex), hslot hw]
  · rw [Classical.not_imp] at hposition
    obtain ⟨rfl, hsome⟩ := hposition
    obtain ⟨i, hi⟩ := Option.ne_none_iff_exists'.mp hsome
    rw [get_index (hindex.trans hi), ← get_index hi, hw]

/-! ### Changing what is there -/

theorem slot?_update? (h : c.slot? p = some w) (f : Value → Value) :
    ∃ c', c.update? p f = some c' ∧ c'.slot? p = some (f w) := by
  unfold slot? at h
  unfold update? slot?
  cases hin : inForm? p with
  | some rest =>
    rw [hin] at h
    obtain ⟨r, hr, hfound⟩ := Record.lookup_update? h f
    exact ⟨{ c with form := r }, by simp only [hr, Option.map_some], hfound⟩
  | none =>
    rw [hin] at h
    obtain ⟨r, hr, hfound⟩ := Record.lookup_update? h f
    exact ⟨{ c with fields := r }, by simp only [hr, Option.map_some], hfound⟩

theorem update?_eq_none (h : c.slot? p = none) (f : Value → Value) : c.update? p f = none := by
  unfold slot? at h
  unfold update?
  cases hin : inForm? p with
  | some rest =>
    rw [hin] at h
    simp only [Record.update?_eq_none h f, Option.map_none]
  | none =>
    rw [hin] at h
    simp only [Record.update?_eq_none h f, Option.map_none]

/-- A change is in the form or in the fields. -/
theorem update?_eq_some (h : c.update? p f = some c') :
    (∃ rest r, inForm? p = some rest ∧ Record.update? c.form rest f = some r ∧
      c' = { c with form := r }) ∨
    (∃ r, inForm? p = none ∧ Record.update? c.fields p f = some r ∧
      c' = { c with fields := r }) := by
  unfold update? at h
  cases hin : inForm? p with
  | some rest =>
    rw [hin] at h
    obtain ⟨r, hr, rfl⟩ := Option.map_eq_some_iff.mp h
    exact .inl ⟨rest, r, rfl, hr, rfl⟩
  | none =>
    rw [hin] at h
    obtain ⟨r, hr, rfl⟩ := Option.map_eq_some_iff.mp h
    exact .inr ⟨r, rfl, hr, rfl⟩

/-- At a path that diverges a change leaves everything as it was. -/
theorem slot?_update?_of_diverge (h : c.update? p f = some c') (hd : c.Diverge p q) :
    c'.slot? q = c.slot? q := by
  unfold Diverge at hd
  unfold slot?
  obtain ⟨rest, r, hin, hr, rfl⟩ | ⟨r, hin, hr, rfl⟩ := update?_eq_some h
  · rw [hin] at hd
    cases hq : inForm? q with
    | some rest' =>
      rw [hq] at hd
      exact Value.descend?_modify?_of_diverge (Record.update?_eq_some.mp hr) hd
    | none => rfl
  · rw [hin] at hd
    cases hq : inForm? q with
    | some rest' => rfl
    | none =>
      rw [hq] at hd
      exact Value.descend?_modify?_of_diverge (Record.update?_eq_some.mp hr) hd

/-! ### Writing -/

/-- Writing is in the form or in the fields. -/
theorem set_eq (hp : p ≠ "form") (v : Value) :
    (∃ rest, inForm? p = some rest ∧ c.set p v = { c with form := Record.assign c.form rest v }) ∨
    (inForm? p = none ∧ c.set p v = { c with fields := Record.assign c.fields p v }) := by
  rw [set]
  cases hin : inForm? p with
  | some rest => exact .inl ⟨rest, rfl, rfl⟩
  | none => exact .inr ⟨rfl, if_neg hp⟩

theorem slot?_set (hp : p ≠ "form") (v : Value) : (c.set p v).slot? p = some v := by
  rw [slot?]
  obtain ⟨rest, hin, hset⟩ | ⟨hin, hset⟩ := set_eq (c := c) hp v
  · rw [hin, hset]
    exact Record.lookup_assign c.form rest v
  · rw [hin, hset]
    exact Record.lookup_assign c.fields p v

/-- What is written where it is read is found there. -/
theorem get_set (hp : c.IsSlot p) (v : Value) : (c.set p v).get p = some v := by
  have hindex : (c.set p v).index = c.index := by
    obtain ⟨rest, -, hset⟩ | ⟨-, hset⟩ := set_eq (c := c) hp.notForm v
    · rw [hset]
    · rw [hset]
  rw [get_eq_slot? (hp.of_index hindex), slot?_set hp.notForm]

/-- What is at a path that diverges in a record stays there. -/
theorem slot?_set_of_diverge (hp : p ≠ "form") (hd : c.DivergeInRecords p q)
    (hw : c.slot? q = some w) : (c.set p v).slot? q = some w := by
  unfold DivergeInRecords at hd
  unfold slot? at hw ⊢
  obtain ⟨rest, hin, hset⟩ | ⟨hin, hset⟩ := set_eq (c := c) hp v
  · rw [hin] at hd
    rw [hset]
    cases hq : inForm? q with
    | some rest' =>
      rw [hq] at hd hw
      exact Record.descend?_assignAt_of_diverge hd hw
    | none =>
      rw [hq] at hw
      exact hw
  · rw [hin] at hd
    rw [hset]
    cases hq : inForm? q with
    | some rest' =>
      rw [hq] at hw
      exact hw
    | none =>
      rw [hq] at hd hw
      exact Record.descend?_assignAt_of_diverge hd hw

/-- What was written over can be put back where it was if and only if no list is on the
way. -/
theorem update?_set_iff (hp : p ≠ "form") (hw : c.slot? p = some w) (v : Value) :
    (c.set p v).update? p (fun _ => w) = some c ↔ ¬ c.ThroughList p := by
  unfold ThroughList update?
  unfold slot? at hw
  obtain ⟨fields, form, index, base, depth⟩ := c
  obtain ⟨rest, hin, hset⟩ | ⟨hin, hset⟩ := set_eq (c := ⟨fields, form, index, base, depth⟩) hp v
  · rw [hin] at hw
    rw [hin, hset]
    simp [← Record.update?_assign_iff hw v, Option.map_eq_some_iff]
  · rw [hin] at hw
    rw [hin, hset]
    simp [← Record.update?_assign_iff hw v, Option.map_eq_some_iff]

end Context

end ActionTree
