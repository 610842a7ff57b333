import ActionTree.Proofs.JsonGrammar

/-!
# ActionTree.Proofs.JsonShape

What has a given shape is JSON.

1. a value of a kind is read from a value of the grammar, whatever the kind is
   (`takes_readKind`);
2. a record of named fields is read from a record or from a list of the grammar, what it
   skips included (`takes_readFrom`), so a whole text that it is read from is JSON
   (`isJson_of_read`).
-/

namespace ActionTree.Json

namespace Grammar

/-! ## Kinds -/

theorem mismatch_ne_ok {α : Type} {cs : List Char} {wording : String} {a : α} :
    mismatch cs wording ≠ .ok a := by
  intro h
  rw [mismatch.eq_def] at h
  split at h
  · contradiction
  · contradiction
  · split at h <;> contradiction

theorem takes_readPlain (k : Kind) : Takes (readPlain k) (Led Datum) := by
  intro cs rest v h
  unfold readPlain at h
  split at h
  · contradiction
  · exact absurd h mismatch_ne_ok
  · exact absurd h mismatch_ne_ok
  · split at h
    · contradiction
    · next hread =>
      split at h
      · contradiction
      · cases h
        exact .behind (blanks_skip cs) (takes_readValue 0 hread)

theorem takes_readChoice (choices : List String) : Takes (readChoice choices) Chars := by
  intro cs rest v h
  rw [readChoice] at h
  split at h
  · contradiction
  · next htext =>
    split at h
    · contradiction
    · cases h
      exact takes_readText htext

theorem more_of_readUnit {cs rest : List Char} (h : readUnit cs = .ok ((), rest)) :
    ∃ mid, Led Datum cs mid ∧ Blanks mid ('}' :: rest) := by
  unfold readUnit at h
  split at h
  · contradiction
  · next hskip =>
    split at h
    · contradiction
    · next hword =>
      split at h
      · contradiction
      · next hclose =>
        cases h
        rw [eq_append_of_readWord hword] at hskip
        exact ⟨_, .mk (blanks_of_skip hskip) .nullWord, blanks_of_skip hclose⟩
      · contradiction
  · exact absurd h mismatch_ne_ok

theorem takes_readChoiceForm (choices : List String) :
    Takes (readChoiceForm choices) (Led Datum) := by
  intro cs rest v h
  refine .mk (blanks_skip cs) ?_
  unfold readChoiceForm at h
  split at h
  · contradiction
  · next hskip => exact hskip ▸ .text (takes_readChoice choices h)
  · next hskip =>
    split at h
    · contradiction
    · next hquote =>
      split at h
      · contradiction
      · next hchoice =>
        split at h
        · contradiction
        · next hcolon =>
          split at h
          · contradiction
          · next hunit =>
            cases h
            obtain ⟨mid, hvalue, hclose⟩ := more_of_readUnit hunit
            have hpair := Pair.mk (takes_readChoice choices hchoice) (blanks_of_readColon hcolon)
              hvalue
            rw [hskip]
            exact .record (.parts (.mk (blanks_of_skip hquote) hpair) (.close hclose))
    · exact absurd h mismatch_ne_ok
  · contradiction

theorem takes_readKind (k : Kind) : Takes (readKind k) (Led Datum) := by
  intro cs rest v h
  unfold readKind at h
  split at h
  · exact takes_readValue _ h
  · exact takes_readChoiceForm _ h
  · split at h
    · next hskip =>
      split at h
      · contradiction
      · next hitems =>
        cases h
        exact .mk (blanks_of_skip hskip) (.list (takes_readItems (takes_readPlain _) hitems))
    · exact .behind (blanks_skip cs) (takes_readPlain _ h)
  · split at h
    · next hskip => exact .behind (blanks_of_skip hskip) (takes_readValue _ h)
    · exact .behind (blanks_skip cs) (takes_readPlain _ h)
  · exact takes_readPlain _ h

/-! ## Schemas -/

/-- Where the next part starts: the first one behind blanks, another one behind a comma. -/
inductive Start : Bool → Form
  | first {cs rest : List Char} : Blanks cs rest → Start true cs rest
  | next {cs part rest : List Char} :
      Blanks cs (',' :: part) → Blanks part rest → Start false cs rest

/-- The parts from the first or from another one on, and the bracket that closes them. -/
def Parts (close : Char) (Part : Form) : (first : Bool) → Form
  | true => Body close Part
  | false => More close Part

section Parts

variable {bracket : Char} {F : Form} {first : Bool} {cs mid place rest : List Char}

theorem Parts.close (h : Blanks cs (bracket :: rest)) : Parts bracket F first cs rest := by
  cases first with
  | true => exact Body.empty h
  | false => exact More.close h

theorem Parts.part (hstart : Start first cs place) (hpart : Led F place mid)
    (hmore : More bracket (Led F) mid rest) : Parts bracket (Led F) first cs rest := by
  cases hstart with
  | first hblanks => exact Body.parts (.behind hblanks hpart) hmore
  | next hcomma hblanks => exact More.comma hcomma (.behind hblanks hpart) hmore

/-- Where keys are looked for, the next key starts or the closing brace follows. -/
theorem readKeyStart_sound {found : Option Unit} :
    readKeyStart first cs = .ok (found, mid) →
    match found with
    | some _ => Start first cs ('"' :: mid)
    | none => ∃ rest, mid = '}' :: rest ∧ Blanks cs ('}' :: rest) := by
  intro h
  unfold readKeyStart at h
  split at h
  · contradiction
  · next hskip =>
    cases h
    exact ⟨_, rfl, blanks_of_skip hskip⟩
  · next hskip =>
    split at h
    · next hfirst =>
      cases h
      exact hfirst ▸ .first (blanks_of_skip hskip)
    · contradiction
  · next hcomma =>
    split at h
    · contradiction
    · next hfirst =>
      rw [(Bool.not_eq_true first).mp hfirst]
      split at h
      · contradiction
      · next hquote =>
        cases h
        exact .next (blanks_of_skip hcomma) (blanks_of_skip hquote)
      · contradiction
      · contradiction
  · contradiction

/-- Where items are looked for, the next item starts or the closing bracket follows. -/
theorem readItemStart_sound {found : Option Unit} :
    Schema.readItemStart first cs = .ok (found, mid) →
    match found with
    | some _ => Start first cs mid
    | none => ∃ rest, mid = ']' :: rest ∧ Blanks cs (']' :: rest) := by
  intro h
  unfold Schema.readItemStart at h
  split at h
  · contradiction
  · next hskip =>
    cases h
    exact ⟨_, rfl, blanks_of_skip hskip⟩
  · next hskip =>
    split at h
    · next hfirst =>
      cases h
      exact hfirst ▸ .first (blanks_of_skip hskip)
    · next hfirst =>
      rw [(Bool.not_eq_true first).mp hfirst]
      split at h
      · next hcomma =>
        split at h
        · contradiction
        · contradiction
        · cases h
          exact .next (blanks_of_skip (hcomma ▸ hskip)) (blanks_skip _)
      · contradiction

end Parts

/-- A key that was read, with what is read or skipped behind it. -/
theorem pair_of_readFieldOf {s : Schema} {found found' : Record} {key : String}
    {cs mid rest : List Char} (hkey : Chars cs mid)
    (h : s.readFieldOf found key mid = .ok (found', rest)) : Pair Datum ('"' :: cs) rest := by
  rw [Schema.readFieldOf] at h
  split at h
  · split at h
    · contradiction
    · next hcolon =>
      split at h
      · contradiction
      · next hskip =>
        cases h
        exact .mk hkey (blanks_of_readColon hcolon) (takes_skipValue _ hskip)
  · split at h
    · contradiction
    · split at h
      · contradiction
      · next hcolon =>
        split at h
        · contradiction
        · next hread =>
          cases h
          exact .mk hkey (blanks_of_readColon hcolon) (takes_readKind _ hread)

theorem parts_of_readFields {s : Schema} {fuel : Nat} {first : Bool} {found found' : Record}
    {cs mid : List Char} (h : s.readFields fuel first found cs = .ok (found', mid)) :
    ∃ rest, mid = '}' :: rest ∧ Parts '}' (Led (Pair Datum)) first cs rest := by
  induction fuel generalizing first found cs with
  | zero => contradiction
  | succ fuel ih =>
    rw [Schema.readFields] at h
    split at h
    · contradiction
    · next hclose =>
      cases h
      obtain ⟨rest, hmid, hblanks⟩ := readKeyStart_sound hclose
      exact ⟨rest, hmid, .close hblanks⟩
    · next hstart =>
      split at h
      · contradiction
      · next hkey =>
        split at h
        · contradiction
        · next hfield =>
          obtain ⟨rest, hmid, hmore⟩ := ih h
          exact ⟨rest, hmid, .part (readKeyStart_sound hstart)
            (.mk .none (pair_of_readFieldOf (takes_readText hkey) hfield)) hmore⟩

theorem blanks_of_readListEnd {cs rest : List Char} (h : Schema.readListEnd cs = .ok ((), rest)) :
    Blanks cs (']' :: rest) := by
  unfold Schema.readListEnd at h
  split at h
  · contradiction
  · next hskip =>
    cases h
    exact blanks_of_skip hskip
  · split at h <;> contradiction
  · contradiction

/-- In front of the closing bracket nothing follows but the bracket. -/
theorem eq_of_parts_close {bracket : Char} (hbracket : isBlank bracket = false)
    (hcomma : bracket ≠ ',') {F : Form} {cs rest : List Char}
    (h : More bracket F (bracket :: cs) rest) : cs = rest := by
  have hstop {c : Char} {tail : List Char} (hblanks : Blanks (bracket :: cs) (c :: tail)) :
      bracket = c ∧ cs = tail := by
    cases hblanks with
    | none => exact ⟨rfl, rfl⟩
    | more hblank => rw [hbracket] at hblank; contradiction
  cases h with
  | close hblanks => exact (hstop hblanks).2
  | comma hblanks => exact absurd (hstop hblanks).1 hcomma

theorem parts_of_readItemsOf {s : Schema} {position : Nat} {fields : List Field}
    {cs mid rest : List Char} {vs : List Value}
    (h : s.readItemsOf position fields cs = .ok (vs, mid))
    (hend : Schema.readListEnd mid = .ok ((), rest)) :
    Parts ']' (Led Datum) (position == 0) cs rest := by
  induction fields generalizing position cs vs with
  | nil =>
    cases h
    exact .close (blanks_of_readListEnd hend)
  | cons field fields ih =>
    rw [Schema.readItemsOf] at h
    split at h
    · contradiction
    · next hclose =>
      obtain ⟨behind, rfl, hblanks⟩ := readItemStart_sound hclose
      split at h
      · contradiction
      · split at h
        · contradiction
        · next hmore =>
          cases h
          rw [← eq_of_parts_close (by decide) (by decide) (ih hmore)]
          exact .close hblanks
    · next hstart =>
      split at h
      · contradiction
      · next hread =>
        split at h
        · contradiction
        · next hmore =>
          cases h
          exact .part (readItemStart_sound hstart) (takes_readKind _ hread) (ih hmore)

theorem takes_readFrom (s : Schema) : Takes s.readFrom (Led Datum) := by
  intro cs rest vs h
  refine .mk (blanks_skip cs) ?_
  unfold Schema.readFrom at h
  split at h
  · contradiction
  · next hskip =>
    split at h
    · contradiction
    · next hfields =>
      split at h
      · contradiction
      · obtain ⟨behind, rfl, hentries⟩ := parts_of_readFields hfields
        cases h
        exact hskip ▸ .record hentries
  · next hskip =>
    split at h
    · contradiction
    · next hitems =>
      split at h
      · contradiction
      · next hend =>
        cases h
        exact hskip ▸ .list (parts_of_readItemsOf hitems hend)
  · exact absurd h mismatch_ne_ok

theorem blanks_of_readEnd {cs : List Char} (h : readEnd cs = .ok ()) : Blanks cs [] := by
  unfold readEnd at h
  split at h
  · next hskip => exact blanks_of_skip hskip
  · contradiction

/-- Whatever its fields are, a schema is read from JSON only. -/
theorem isJson_of_read {s : Schema} {cs : List Char} {vs : List Value}
    (h : s.read cs = .ok vs) : IsJson cs := by
  rw [Schema.read] at h
  split at h
  · contradiction
  · next hread =>
    split at h
    · contradiction
    · next hend => exact ⟨_, takes_readFrom s hread, blanks_of_readEnd hend⟩

end Grammar

end ActionTree.Json
