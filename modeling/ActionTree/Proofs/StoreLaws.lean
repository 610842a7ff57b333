import ActionTree.Proofs.Addressing

/-!
# ActionTree.Proofs.StoreLaws

A record with dotted paths is a store.

1. two paths are *apart* if neither is the beginning of the other.  Where positions of lists
   are written in one way only (`Value.Canonical`), a path that leads somewhere comes to
   another child than a path apart from it (`Value.diverge_of_apart`);
2. writing through records leaves what is apart as it was, be it there or not
   (`Record.descend?_assignAt_of_apart`);
3. removing takes an entry out of the record that holds it, and is this alone
   (`Record.remove?_eq_some_iff`): the entry is gone, and what is apart is as it was.

The laws of a store are these together (`Record.obeys_store_laws`).
-/

namespace ActionTree

open Text

/-! ## Paths apart -/

/-- Neither of two lists of segments is the beginning of the other. -/
def Apart (ss ts : List String) : Prop := ¬ ss <+: ts ∧ ¬ ts <+: ss

theorem not_apart_nil {ts : List String} : ¬ Apart [] ts := fun h => h.1 ts.nil_prefix

theorem Apart.ne_nil {ss ts : List String} (h : Apart ss ts) : ts ≠ [] := by
  rintro rfl
  exact h.2 ss.nil_prefix

theorem apart_cons {s t : String} {ss ts : List String} :
    Apart (s :: ss) (t :: ts) ↔ s ≠ t ∨ Apart ss ts := by
  simp only [Apart, List.cons_prefix_cons, eq_comm (a := t)]
  by_cases hst : s = t <;> simp [hst]

/-- What is apart from a list with one segment more is apart from the list, or goes on behind
it with another segment. -/
theorem Apart.concat {front ts : List String} {key : String} (h : Apart (front ++ [key]) ts) :
    Apart front ts ∨ ∃ t rest, ts = front ++ t :: rest ∧ key ≠ t := by
  by_cases hfront : front <+: ts
  · obtain ⟨tail, rfl⟩ := hfront
    cases tail with
    | nil => exact absurd ((List.append_nil front).symm ▸ List.prefix_append front [key]) h.2
    | cons t rest =>
      refine .inr ⟨t, rest, rfl, ?_⟩
      rintro rfl
      exact h.1 ⟨rest, by rw [List.append_assoc, List.singleton_append]⟩
  · exact .inl ⟨hfront, fun hback => h.2 (hback.trans (List.prefix_append front [key]))⟩

namespace Value

/-- Whatever names a position of a list along a way is the numeral of that position, without
sign and without leading zeros. -/
def Canonical : Value → List String → Prop
  | _, [] => True
  | v, s :: ss =>
    (∀ vs i, v = list vs → position? s = some i → s.toList = digitsOf i) ∧
      ∀ w, v.child? s = some w → w.Canonical ss

theorem Canonical.of_append {v : Value} {ss ts : List String} (h : v.Canonical (ss ++ ts)) :
    v.Canonical ss := by
  induction ss generalizing v with
  | nil => trivial
  | cons s ss ih => exact ⟨h.1, fun w hw => ih (h.2 w hw)⟩

/-- A canonical segment that names a child and another canonical segment name two children. -/
theorem not_sameChild_of_canonical {v w : Value} {s t : String} {ss ts : List String}
    (hw : v.child? s = some w) (hs : v.Canonical (s :: ss)) (ht : v.Canonical (t :: ts))
    (hne : s ≠ t) : ¬ v.SameChild s t := by
  cases v with
  | list vs =>
    intro hsame
    cases hposition : position? s with
    | none =>
      rw [child?, hposition] at hw
      contradiction
    | some i =>
      have hnumeral : s.toList = digitsOf i := hs.1 vs i rfl hposition
      have hother : t.toList = digitsOf i := ht.1 vs i rfl (hsame.symm.trans hposition)
      exact hne (String.toList_inj.mp (hnumeral.trans hother.symm))
  | _ => exact hne

/-- Where a canonical path leads somewhere, canonical paths that are apart from it diverge. -/
theorem diverge_of_apart {v w : Value} {ss ts : List String} (hw : v.descend? ss = some w)
    (hss : v.Canonical ss) (hts : v.Canonical ts) (h : Apart ss ts) : v.Diverge ss ts := by
  induction ss generalizing v ts with
  | nil => exact absurd h not_apart_nil
  | cons s ss ih =>
    cases ts with
    | nil => exact absurd rfl h.ne_nil
    | cons t ts =>
      obtain ⟨u, hu, huw⟩ := descend?_cons_eq_some.mp hw
      by_cases hst : s = t
      · subst hst
        have hrest : Apart ss ts := (apart_cons.mp h).resolve_left (not_not.mpr rfl)
        exact .inr ⟨u, hu, ih huw (hss.2 u hu) (hts.2 u hu) hrest⟩
      · exact .inl (not_sameChild_of_canonical hu hss hts hst)

theorem Proper.distinct {es : Record} (h : (Value.record es).Proper) : Record.Distinct es := by
  cases h with
  | record distinct _ => exact distinct

/-- No proper beginning of a path leads to anything but a record. -/
def ThroughRecords (v : Value) (ss : List String) : Prop :=
  ∀ front, front <+: ss → front ≠ ss → ∀ w, v.descend? front = some w → ∃ es, w = record es

theorem ThroughRecords.tail {v w : Value} {s : String} {ss : List String}
    (h : v.ThroughRecords (s :: ss)) (hw : v.child? s = some w) : w.ThroughRecords ss := by
  intro front hfront hne u hu
  refine h (s :: front) (List.cons_prefix_cons.mpr ⟨rfl, hfront⟩) ?_ u
    (descend?_cons_eq_some.mpr ⟨w, hw, hu⟩)
  simpa using hne

theorem throughRecords_empty (ss : List String) : (record []).ThroughRecords ss := by
  intro front _ _ w hw
  cases front with
  | nil => exact ⟨[], (Option.some.inj hw).symm⟩
  | cons s ss => contradiction

end Value

namespace Record

variable {r r' : Record} {path : String}

/-! ## Writing -/

/-- Through records a path that is apart comes to what it came to before, or to nothing as
before. -/
theorem descend?_assignAt_of_apart {ss ts : List String}
    (hthrough : (Value.record r).ThroughRecords ss) (h : Apart ss ts) (v : Value) :
    (Value.record (assignAt r ss v)).descend? ts = (Value.record r).descend? ts := by
  induction ss generalizing r ts with
  | nil => exact absurd h not_apart_nil
  | cons s ss ih =>
    cases ts with
    | nil => exact absurd rfl h.ne_nil
    | cons t ts =>
      obtain ⟨x, hx⟩ : ∃ x, assignAt r (s :: ss) v = insert r s x := by
        cases ss with
        | nil => exact ⟨v, rfl⟩
        | cons s' ss => exact ⟨_, rfl⟩
      by_cases hst : s = t
      · subst hst
        have hrest : Apart ss ts := (apart_cons.mp h).resolve_left (not_not.mpr rfl)
        cases ss with
        | nil => exact absurd hrest not_apart_nil
        | cons s' ss =>
          rw [assignAt_cons]
          simp only [Value.descend?, Value.child?, get?_insert_self]
          cases hget : get? r s with
          | none =>
            -- The record that is made on the way holds nothing that is apart.
            have hinner : inner r s = [] := by rw [inner, hget]
            rw [hinner, ih (Value.throughRecords_empty _) hrest]
            obtain ⟨t, ts, rfl⟩ := List.exists_cons_of_ne_nil hrest.ne_nil
            rfl
          | some w =>
            obtain ⟨es, rfl⟩ := hthrough [s] (by simp) (by simp) w
              (Value.descend?_cons_eq_some.mpr ⟨w, hget, rfl⟩)
            rw [inner_eq hget, ih (hthrough.tail hget) hrest]
      · rw [hx]
        simp only [Value.descend?, Value.child?, get?_insert_of_ne (Ne.symm hst)]

/-! ## Removing -/

/-- Segments that end in one way end in one segment. -/
theorem of_append_singleton_eq {front front' : List String} {key key' : String}
    (h : front ++ [key] = front' ++ [key']) : front = front' ∧ key = key' := by
  obtain ⟨hfront, hkey⟩ := List.append_inj' h rfl
  exact ⟨hfront, List.singleton_inj.mp hkey⟩

/-- Removing is to take an entry out of the record that holds it. -/
theorem remove?_eq_some_iff {w : Value} :
    remove? r path = some (w, r') ↔ ∃ front key es, pathSegments path = front ++ [key] ∧
      (Value.record r).descend? front = some (.record es) ∧ get? es key = some w ∧
      (Value.record r).modify? (fun _ => .record (erase es key)) front = some (.record r') := by
  rw [remove?]
  cases hcut : cutLast '.' path with
  | none =>
    have hsegments : pathSegments path = [] ++ [path] := pathSegments_of_no_dot hcut
    constructor
    · intro h
      dsimp only at h
      cases hget : get? r path with
      | none => simp [hget] at h
      | some v =>
        simp only [hget, Option.some.injEq, Prod.mk.injEq] at h
        obtain ⟨rfl, rfl⟩ := h
        exact ⟨[], path, r, hsegments, rfl, hget, rfl⟩
    · rintro ⟨front, key, es, hpath, hes, hget, hr'⟩
      obtain ⟨rfl, rfl⟩ := of_append_singleton_eq (hpath.symm.trans hsegments)
      obtain rfl : r = es := Value.record.inj (Option.some.inj hes)
      obtain rfl : erase r key = r' := Value.record.inj (Option.some.inj hr')
      simp only [hget]
  | some parts =>
    obtain ⟨parent, last⟩ := parts
    have hsegments := pathSegments_of_cutLast hcut
    constructor
    · intro h
      dsimp only at h
      split at h
      · next es hes =>
        split at h
        · next v hget =>
          split at h
          · next after hafter =>
            simp only [Option.some.injEq, Prod.mk.injEq] at h
            obtain ⟨rfl, rfl⟩ := h
            exact ⟨_, last, es, hsegments, hes, hget, update?_eq_some.mp hafter⟩
          · contradiction
        · contradiction
      · contradiction
    · rintro ⟨front, key, es, hpath, hes, hget, hr'⟩
      obtain ⟨rfl, rfl⟩ := of_append_singleton_eq (hpath.symm.trans hsegments)
      have hlookup : lookup r parent = some (.record es) := hes
      simp only [hlookup, hget, update?_eq_some.mpr hr']

/-- The segments of a path before the last lead to a record that has the last as a key. -/
def HasEntry (r : Record) (path : String) : Prop :=
  ∃ front key es, pathSegments path = front ++ [key] ∧
    (Value.record r).descend? front = some (.record es) ∧ has es key = true

/-- An entry can be removed, and nothing else can. -/
theorem remove?_isSome_iff : (remove? r path).isSome = true ↔ HasEntry r path := by
  constructor
  · intro h
    obtain ⟨⟨w, r'⟩, hremove⟩ := Option.isSome_iff_exists.mp h
    rw [remove?_eq_some_iff] at hremove
    obtain ⟨front, key, es, hpath, hes, hget, -⟩ := hremove
    exact ⟨front, key, es, hpath, hes, by rw [has, hget, Option.isSome_some]⟩
  · rintro ⟨front, key, es, hpath, hes, hhas⟩
    obtain ⟨w, hget⟩ := Option.isSome_iff_exists.mp hhas
    have hmodify : ∃ r', (Value.record r).modify? (fun _ => .record (erase es key)) front =
        some (.record r') := by
      obtain ⟨v, hv, -⟩ := Value.descend?_modify? (fun _ => .record (erase es key)) hes
      cases front with
      | nil => exact ⟨erase es key, rfl⟩
      | cons s ss =>
        obtain ⟨u, u', -, -, rfl⟩ := Value.modify?_cons_eq_some.mp hv
        exact ⟨_, hv⟩
    obtain ⟨r', hr'⟩ := hmodify
    have hremove : remove? r path = some (w, r') := by
      rw [remove?_eq_some_iff]
      exact ⟨front, key, es, hpath, hes, hget, hr'⟩
    rw [hremove, Option.isSome_some]

theorem lookup_of_remove? {w : Value} (h : remove? r path = some (w, r')) :
    lookup r path = some w := by
  rw [remove?_eq_some_iff] at h
  obtain ⟨front, key, es, hpath, hes, hget, -⟩ := h
  rw [lookup, hpath, Value.descend?_append, hes]
  exact Value.descend?_cons_eq_some.mpr ⟨w, hget, rfl⟩

/-- What was removed is not found any more. -/
theorem lookup_remove? {w : Value} (hr : (Value.record r).Proper)
    (h : remove? r path = some (w, r')) : lookup r' path = none := by
  rw [remove?_eq_some_iff] at h
  obtain ⟨front, key, es, hpath, hes, -, hr'⟩ := h
  obtain ⟨v, hv, hfound⟩ := Value.descend?_modify? (fun _ => .record (erase es key)) hes
  obtain rfl : v = .record r' := Option.some.inj (hv.symm.trans hr')
  have hdistinct : Distinct es := (hr.descend? hes).distinct
  have hgone : get? (erase es key) key = none := by rw [get?_erase hdistinct, if_pos rfl]
  rw [lookup, hpath, Value.descend?_append, hfound, Option.bind_some, Value.descend?_cons,
    Value.child?_record, hgone, Option.bind_none]

/-- What is apart from what was removed is where it was. -/
theorem descend?_remove?_of_apart {w : Value} {ts : List String} (hr : (Value.record r).Proper)
    (h : remove? r path = some (w, r')) (hpath : (Value.record r).Canonical (pathSegments path))
    (hts : (Value.record r).Canonical ts) (hapart : Apart (pathSegments path) ts) :
    (Value.record r').descend? ts = (Value.record r).descend? ts := by
  rw [remove?_eq_some_iff] at h
  obtain ⟨front, key, es, hsegments, hes, -, hr'⟩ := h
  rw [hsegments] at hpath hapart
  rcases hapart.concat with hfront | ⟨t, rest, rfl, hkey⟩
  · have hdiverge := Value.diverge_of_apart hes hpath.of_append hts hfront
    exact Value.descend?_modify?_of_diverge hr' hdiverge
  · -- Both paths come to one record, and to two entries of it.
    obtain ⟨v, hv, hfound⟩ := Value.descend?_modify? (fun _ => .record (erase es key)) hes
    obtain rfl : v = .record r' := Option.some.inj (hv.symm.trans hr')
    have hdistinct : Distinct es := (hr.descend? hes).distinct
    rw [Value.descend?_append, Value.descend?_append, hfound, hes, Option.bind_some,
      Option.bind_some, Value.descend?_cons, Value.descend?_cons, Value.child?_record,
      Value.child?_record, get?_erase hdistinct, if_neg hkey]

/-! ## The laws of a store -/

/-- What is left when a path is removed: all of a record, if the path leads to no entry. -/
def remaining (r : Record) (path : String) : Record :=
  match remove? r path with
  | some (_, r') => r'
  | none => r

/-- Two paths are apart, and the second writes positions of lists in the one canonical way. -/
structure IsApart (r : Record) (p q : String) : Prop where
  apart : Apart (pathSegments p) (pathSegments q)
  canonical : (Value.record r).Canonical (pathSegments q)

/-- What a record does at a path, as a store, whatever value is put there. -/
structure StoreLaws (r : Record) (p : String) (v : Value) : Prop where
  /-- What is written is found. -/
  written : lookup (assign r p v) p = some v
  /-- Writing through records changes nothing that is apart. -/
  written_apart : (Value.record r).ThroughRecords (pathSegments p) →
    ∀ q, Apart (pathSegments p) (pathSegments q) → lookup (assign r p v) q = lookup r q
  /-- There is a slot exactly where a value is found. -/
  slot : (update? r p fun _ => v).isSome = (lookup r p).isSome
  /-- What is put into a slot is found, and nothing that is apart is changed. -/
  stored : ∀ r', update? r p (fun _ => v) = some r' →
    lookup r' p = some v ∧ ∀ q, r.IsApart p q → lookup r' q = lookup r q
  /-- There is something to remove exactly if a record holds the last segment. -/
  entry : (remove? r p).isSome = true ↔ r.HasEntry p
  /-- What is removed was found and is gone, and nothing that is apart is changed. -/
  removed : ∀ w r', remove? r p = some (w, r') → lookup r p = some w ∧
    lookup (r.remaining p) p = none ∧ ∀ q, r.IsApart p q → lookup (r.remaining p) q = lookup r q
  /-- Where there is nothing to remove, nothing is changed. -/
  kept : remove? r p = none → r.remaining p = r

/-- **A record with dotted paths is a store.**  Of any record whose keys are distinct throughout
and any path that writes positions of lists without sign and leading zeros, the laws hold of
reading, writing, changing in place and removing. -/
theorem obeys_store_laws (r : Record) (p : String) (v : Value) (hr : (Value.record r).Proper)
    (hp : (Value.record r).Canonical (pathSegments p)) : r.StoreLaws p v where
  written := lookup_assign r p v
  written_apart hthrough q hq := descend?_assignAt_of_apart hthrough hq v
  slot := by
    cases hlookup : lookup r p with
    | none =>
      rw [update?_eq_none hlookup]
      rfl
    | some w =>
      obtain ⟨r', hr', -⟩ := lookup_update? hlookup fun _ => v
      rw [hr', Option.isSome_some, Option.isSome_some]
  stored r' hr' := by
    obtain ⟨w, hw⟩ := Value.descend?_of_modify? (update?_eq_some.mp hr')
    obtain ⟨after, hafter, hfound⟩ := lookup_update? hw fun _ => v
    obtain rfl : after = r' := Option.some.inj (hafter.symm.trans hr')
    refine ⟨hfound, fun q hq => ?_⟩
    exact Value.descend?_modify?_of_diverge (update?_eq_some.mp hr')
      (Value.diverge_of_apart hw hp hq.canonical hq.apart)
  entry := remove?_isSome_iff
  removed w r' h := by
    have hremaining : r.remaining p = r' := by rw [remaining, h]
    rw [hremaining]
    exact ⟨lookup_of_remove? h, lookup_remove? hr h,
      fun q hq => descend?_remove?_of_apart hr h hp hq.canonical hq.apart⟩
  kept h := by rw [remaining, h]

/-- An order with a list of items. -/
def penOrder : Record :=
  [("order", .record [("items", .list [.record [("name", .text "pen"), ("n", .int 2)], .null]),
    ("paid", .boolean true)])]

theorem proper_penOrder : (Value.record penOrder).Proper := by
  have hitem : (Value.record [("name", .text "pen"), ("n", .int 2)]).Proper :=
    .record (by unfold Distinct; decide) (by
      simp only [List.forall_mem_cons]
      exact ⟨.text _, .number _, nofun⟩)
  have hitems : (Value.list [.record [("name", .text "pen"), ("n", .int 2)], .null]).Proper :=
    .list (by
      simp only [List.forall_mem_cons]
      exact ⟨hitem, .null, nofun⟩)
  refine .record (by unfold Distinct; decide) ?_
  simp only [penOrder, List.forall_mem_cons]
  refine ⟨.record (by unfold Distinct; decide) ?_, nofun⟩
  simp only [List.forall_mem_cons]
  exact ⟨hitems, .boolean _, nofun⟩

theorem canonical_penOrder {key : String} :
    (Value.record penOrder).Canonical ["order", "items", "0", key] := by
  have hzero : position? "0" = some 0 := by decide +kernel
  refine ⟨by simp, fun w hw => ?_⟩
  cases hw
  refine ⟨by simp, fun w hw => ?_⟩
  cases hw
  refine ⟨fun vs i _ hi => ?_, fun w hw => ?_⟩
  · rw [hzero] at hi
    cases hi
    decide
  · rw [Value.child?, hzero] at hw
    cases hw
    exact ⟨by simp, fun _ _ => trivial⟩

theorem obeys_store_laws_penOrder :
    ((Value.record penOrder).Proper ∧
      (Value.record penOrder).Canonical (pathSegments "order.items.0.name")) ∧
      penOrder.StoreLaws "order.items.0.name" (.text "ink") ∧
      penOrder.IsApart "order.items.0.name" "order.items.0.n" ∧
      (penOrder.remove? "order.items.0.name").map Prod.fst = some (.text "pen") := by
  have hname : pathSegments "order.items.0.name" = ["order", "items", "0", "name"] := by
    decide +kernel
  have hn : pathSegments "order.items.0.n" = ["order", "items", "0", "n"] := by decide +kernel
  have hcanonical : (Value.record penOrder).Canonical (pathSegments "order.items.0.name") := by
    rw [hname]
    exact canonical_penOrder
  have hapart : penOrder.IsApart "order.items.0.name" "order.items.0.n" := by
    refine ⟨?_, ?_⟩
    · rw [hname, hn, Apart]
      decide
    · rw [hn]
      exact canonical_penOrder
  have hremoved : (penOrder.remove? "order.items.0.name").map Prod.fst = some (.text "pen") := by
    decide +kernel
  have hlaws := obeys_store_laws penOrder "order.items.0.name" (.text "ink") proper_penOrder
    hcanonical
  exact ⟨⟨proper_penOrder, hcanonical⟩, hlaws, hapart, hremoved⟩

end Record

end ActionTree
