import ActionTree.Value.Path
import Mathlib.Data.List.Nodup

/-!
# ActionTree.Proofs.Record

Records whose keys are distinct.

1. every change of a record keeps its keys distinct, so a record that began empty
   never has two entries under one key;
2. what a change does is said by `Record.get?` alone.  For `merge` that takes
   distinct keys: of two new entries under one key the later would win, and the
   earlier would be found.
-/

namespace ActionTree

open Text

namespace Record

/-! ## Keys -/

theorem distinct_nil : Distinct [] := List.nodup_nil

theorem keys_cons (e : String × Value) (es : Record) : keys (e :: es) = e.1 :: keys es := rfl

theorem distinct_cons {e : String × Value} {es : Record} :
    Distinct (e :: es) ↔ e.1 ∉ keys es ∧ Distinct es := List.nodup_cons

/-- Writing under a key adds it at the end, if it is new. -/
theorem keys_insert (r : Record) (key : String) (v : Value) :
    keys (insert r key v) = if key ∈ keys r then keys r else keys r ++ [key] := by
  induction r with
  | nil => simp [insert, keys]
  | cons e es ih =>
    obtain ⟨k, w⟩ := e
    by_cases h : k = key
    · simp [insert, keys, h]
    · have hne : ¬ key = k := fun hk => h hk.symm
      rw [insert, if_neg h, keys_cons, ih, keys_cons]
      by_cases hm : key ∈ keys es
      · simp [hm]
      · simp [hm, hne]

theorem distinct_insert {r : Record} (hr : Distinct r) (key : String) (v : Value) :
    Distinct (insert r key v) := by
  rw [Distinct, keys_insert]
  split
  · exact hr
  · next h =>
    rw [← List.concat_eq_append]
    exact List.Nodup.concat h hr

/-- Removing a key takes its entry out; only the order tells it from leaving the
other entries as they are. -/
theorem erase_perm (r : Record) (key : String) :
    (erase r key).Perm (r.eraseP fun e => e.1 = key) := by
  induction r with
  | nil => exact List.Perm.refl _
  | cons e es ih =>
    obtain ⟨k, v⟩ := e
    by_cases h : k = key
    · simp only [erase, List.eraseP_cons, h, decide_true]
      cases hl : es.getLast? with
      | none =>
        rw [List.getLast?_eq_none_iff.mp hl]
        exact List.Perm.refl _
      | some last =>
        have hes : es.dropLast ++ [last] = es := List.dropLast_append_getLast? last hl
        have hp : (last :: es.dropLast).Perm (es.dropLast ++ [last]) :=
          (List.perm_append_singleton last es.dropLast).symm
        rwa [hes] at hp
    · simp only [erase, List.eraseP_cons, h, decide_false]
      exact ih.cons _

theorem distinct_erase {r : Record} (hr : Distinct r) (key : String) : Distinct (erase r key) := by
  have hperm : (keys (erase r key)).Perm (keys (r.eraseP fun e => e.1 = key)) :=
    (erase_perm r key).map Prod.fst
  have hsub : (keys (r.eraseP fun e => e.1 = key)).Sublist (keys r) :=
    List.eraseP_sublist.map Prod.fst
  exact hperm.nodup_iff.mpr (hr.sublist hsub)

theorem distinct_merge {r : Record} (hr : Distinct r) (more : Record) :
    Distinct (merge r more) := by
  induction more generalizing r with
  | nil => exact hr
  | cons e es ih => exact ih (distinct_insert hr e.1 e.2)

/-! ## Paths -/

/-- A path has a first segment. -/
theorem pathSegments_ne_nil (path : String) : pathSegments path ≠ [] := by
  simp [pathSegments, pieces, piecesOf_ne_nil]

theorem distinct_assign {r : Record} (hr : Distinct r) (path : String) (v : Value) :
    Distinct (assign r path v) := by
  rw [assign]
  match pathSegments path with
  | [] => exact hr
  | [key] => exact distinct_insert hr key v
  | key :: s :: ss => exact distinct_insert hr key _

theorem distinct_update? {r r' : Record} (hr : Distinct r) {path : String} {f : Value → Value}
    (h : update? r path f = some r') : Distinct r' := by
  rw [update?] at h
  cases hp : pathSegments path with
  | nil => exact absurd hp (pathSegments_ne_nil path)
  | cons s ss =>
    simp only [hp, Value.modify?, Value.child?] at h
    cases hc : get? r s with
    | none => simp [hc] at h
    | some w =>
      cases hm : Value.modify? f w ss with
      | none => simp [hc, hm] at h
      | some w' =>
        simp only [hc, hm, Value.setChild, Option.some.injEq] at h
        rw [← h]
        exact distinct_insert hr s w'

theorem distinct_remove? {r r' : Record} (hr : Distinct r) {path : String} {v : Value}
    (h : remove? r path = some (v, r')) : Distinct r' := by
  rw [remove?] at h
  split at h
  · split at h
    · simp only [Option.some.injEq, Prod.mk.injEq] at h
      rw [← h.2]
      exact distinct_erase hr path
    · contradiction
  · split at h
    · split at h
      · split at h
        · next hu =>
          simp only [Option.some.injEq, Prod.mk.injEq] at h
          rw [← h.2]
          exact distinct_update? hr hu
        · contradiction
      · contradiction
    · contradiction

/-! ## What is found -/

theorem mem_iff_get? {r : Record} (hr : Distinct r) {k : String} {v : Value} :
    (k, v) ∈ r ↔ get? r k = some v := by
  induction r with
  | nil => simp [get?]
  | cons e es ih =>
    obtain ⟨key, w⟩ := e
    obtain ⟨hkey, hes⟩ := distinct_cons.mp hr
    by_cases h : key = k
    · subst h
      have hnot : (key, v) ∉ es := fun hmem => hkey (List.mem_map.mpr ⟨_, hmem, rfl⟩)
      simp [get?, hnot, eq_comm]
    · simp [get?, h, Ne.symm h, ih hes]

/-- Only the entries matter to what is found, not their order. -/
theorem get?_of_perm {r r' : Record} (hr : Distinct r) (hperm : r.Perm r') (k : String) :
    get? r k = get? r' k := by
  have hr' : Distinct r' := (hperm.map Prod.fst).nodup_iff.mp hr
  refine Option.ext fun v => ?_
  rw [← mem_iff_get? hr, ← mem_iff_get? hr', hperm.mem_iff]

/-- What is removed is gone, and nothing else is. -/
theorem get?_erase {r : Record} (hr : Distinct r) (key k : String) :
    get? (erase r key) k = if key = k then none else get? r k := by
  rw [get?_of_perm (distinct_erase hr key) (erase_perm r key)]
  induction r with
  | nil => simp [get?]
  | cons e es ih =>
    obtain ⟨a, w⟩ := e
    obtain ⟨ha, hes⟩ := distinct_cons.mp hr
    by_cases h : a = key
    · subst h
      rw [List.eraseP_cons_of_pos (by simp), get?]
      split
      · next hk => rw [← hk, get?_eq_none_iff.mpr ha]
      · rfl
    · rw [List.eraseP_cons_of_neg (by simp [h]), get?, get?, ih hes]
      split
      · next hk => rw [if_neg (by rintro rfl; exact h hk)]
      · rfl

/-- The new entries come before the old ones. -/
theorem get?_merge (r : Record) {more : Record} (hm : Distinct more) (k : String) :
    get? (merge r more) k = (get? more k).or (get? r k) := by
  induction more generalizing r with
  | nil => rfl
  | cons e es ih =>
    obtain ⟨key, v⟩ := e
    obtain ⟨hkey, hes⟩ := distinct_cons.mp hm
    have hrest := ih (insert r key v) hes
    simp only [merge, List.foldl_cons] at hrest ⊢
    rw [hrest, get?_insert]
    by_cases h : key = k
    · have hnone : get? es k = none := get?_eq_none_iff.mpr (h ▸ hkey)
      simp [get?, h, hnone]
    · simp [get?, h]

end Record

end ActionTree
