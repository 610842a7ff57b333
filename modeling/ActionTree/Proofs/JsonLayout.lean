import ActionTree.Proofs.JsonShape
import ActionTree.Proofs.JsonValue

/-!
# ActionTree.Proofs.JsonLayout

Records that are laid out with any blanks, read by a schema.

1. between the tokens of a record there may be any blanks (`LaidOut`); the wide form is one
   such layout, if no value of the record is a container (`laidOut_wide`);
2. whatever the blanks are, a schema finds the entries of the record in their order, if each
   is one of its fields and is read back as one of the kind of the field
   (`Schema.read_of_laidOut`);
3. what is read back as any value is read back as one of a plain kind, if it passes the check
   of the kind (`readBack_plain`), and so is a word among the choices (`readBack_word`).
-/

namespace ActionTree.Json

open Grammar Text

/-! ## Layouts -/

/-- The characters of a record from its first entry on, or from another one on: the tokens of
the compact form, and any blanks between and behind them. -/
inductive Laid : (first : Bool) → Record → List Char → Prop
  | close {first : Bool} {cs rest : List Char} :
      Blanks cs ('}' :: rest) → Blanks rest [] → Laid first [] cs
  | entry {first : Bool} {key : String} {v : Value} {es : Record}
      {cs colon value rest : List Char} :
      Start first cs (writeText key colon) → Blanks colon (':' :: value) →
      Blanks value (write v rest) → Laid false es rest → Laid first ((key, v) :: es) cs

/-- A whole text that is a record, its entries in their order. -/
def LaidOut (es : Record) (source : List Char) : Prop :=
  ∃ cs, Blanks source ('{' :: cs) ∧ Laid true es cs

/-! ### The wide form -/

theorem blanks_newLine (level : Nat) (rest : List Char) : Blanks (newLine level rest) rest := by
  have hspaces : ∀ n : Nat, Blanks (List.replicate n ' ' ++ rest) rest := by
    intro n
    induction n with
    | zero => exact .none
    | succ n ih => exact .more (by decide) ih
  exact .more (by decide) (hspaces _)

/-- A value that is no container. -/
def IsAtom (v : Value) : Prop := ∀ level rest, writeWide level v rest = write v rest

theorem laid_writeWideEntries {es : Record} (hes : ∀ e ∈ es, IsAtom e.2) :
    Laid false es (writeWideEntries 0 es []) := by
  induction es with
  | nil => exact .close (blanks_newLine 0 _) .none
  | cons e es ih =>
    rw [writeWideEntries, hes e List.mem_cons_self]
    exact .entry (.next .none (blanks_newLine 1 _)) .none (.more (by decide) .none)
      (ih fun f hf => hes f (List.mem_cons_of_mem _ hf))

/-- The wide form of a record without containers in it. -/
theorem laidOut_wide {es : Record} (hes : ∀ e ∈ es, IsAtom e.2) :
    LaidOut es (wide (.record es)).toList := by
  rw [wide, String.toList_ofList]
  cases es with
  | nil => exact ⟨_, .none, .close .none .none⟩
  | cons e es =>
    refine ⟨_, .none, ?_⟩
    rw [hes e List.mem_cons_self]
    exact .entry (.first (blanks_newLine 1 _)) .none (.more (by decide) .none)
      (laid_writeWideEntries fun f hf => hes f (List.mem_cons_of_mem _ hf))

/-! ## Blanks -/

section Blanks

variable {cs mid rest : List Char}

theorem skip_of_blanks (h : Blanks cs mid) : skip cs = skip mid := by
  induction h with
  | none => rfl
  | more hblank _ ih => rw [skip, List.dropWhile_cons_of_pos hblank, ← skip, ih]

theorem skip_eq_cons {c : Char} (h : Blanks cs (c :: rest)) (hc : isBlank c = false) :
    skip cs = c :: rest := by
  rw [skip_of_blanks h, skip_cons hc]

theorem length_le_of_blanks (h : Blanks cs mid) : mid.length ≤ cs.length := by
  induction h with
  | none => exact Nat.le_refl _
  | more _ _ ih => exact Nat.le_succ_of_le ih

/-- What is read as of a kind may have blanks in front. -/
theorem readKind_of_blanks (k : Kind) (h : Blanks cs mid) : readKind k cs = readKind k mid := by
  have hskip := skip_of_blanks h
  cases k <;> simp only [readKind, readPlain, readChoiceForm, hskip]
  unfold readValue
  simp only [hskip]

end Blanks

/-! ## Values of a kind -/

section Kinds

variable {k : Kind} {v : Value}

/-- A value that is no container is read back as one of a plain kind, if it passes the check of
the kind. -/
theorem readBack_plain (hkind : readKind k = readPlain k) (hv : ReadBack (readValue 0) v)
    (hatom : ∀ rest, ∃ c r, write v rest = c :: r ∧ c ≠ '[' ∧ c ≠ '{')
    (hcheck : k.check v = .ok v) : ReadBack (readKind k) v where
  begins := hv.begins
  grows := hv.grows
  read rest hrest := by
    have hread := hv.read rest hrest
    obtain ⟨c, r, hwrite, hblank, -⟩ := hv.begins rest
    obtain ⟨c', r', hwrite', hlist, hrecord⟩ := hatom rest
    obtain ⟨rfl, rfl⟩ := List.cons.inj (hwrite.symm.trans hwrite')
    rw [hwrite] at hread ⊢
    rw [hkind, readPlain, skip_cons hblank]
    split
    · contradiction
    · next h => exact absurd (List.cons.inj h).1 hlist
    · next h => exact absurd (List.cons.inj h).1 hrecord
    · rw [hread]
      dsimp only
      rw [hcheck]

theorem readBack_textKind (wording s : String) :
    ReadBack (readKind (.text wording)) (.text s) :=
  readBack_plain rfl (readBack_quoted s 0)
    (fun rest => ⟨'"', writeChars s.toList rest, rfl, by decide, by decide⟩) rfl

theorem readBack_flag (b : Bool) : ReadBack (readKind .flag) (.boolean b) := by
  refine readBack_plain rfl (readBack_boolean b 0) (fun rest => ?_) rfl
  cases b with
  | true => exact ⟨'t', _, rfl, by decide, by decide⟩
  | false => exact ⟨'f', _, rfl, by decide, by decide⟩

/-- A natural number that is below the limit of the kind, and below that of the reader. -/
theorem readBack_natural {n limit : Nat} (hn : n < limit) (hlimit : limit ≤ pow2 64)
    (wording : String) : ReadBack (readKind (.natural limit wording)) (.nat n) := by
  have hlt : (n : Int) < pow2 64 := Int.ofNat_lt.mpr (Nat.lt_of_lt_of_le hn hlimit)
  refine readBack_plain rfl (readBack_int (by rw [leastInt64]; omega) hlt 0) (fun rest => ?_) ?_
  · obtain ⟨c, ds, heq, hdigit, -⟩ := exists_digitsOf (n := n)
    refine ⟨c, ds ++ rest, ?_, ?_, ?_⟩
    · rw [Value.nat, write_number, Number.chars, ← List.cons_append, ← heq]
      rfl
    · rintro rfl
      simp at hdigit
    · rintro rfl
      simp at hdigit
  · rw [Value.nat, Kind.check, checkNatural, if_pos]
    simpa using hn

/-- A word among the choices. -/
theorem readBack_word {choices : List String} {s : String} (hs : choices.contains s = true) :
    ReadBack (readKind (.word choices)) (.text s) where
  begins := (readBack_quoted s 0).begins
  grows := (readBack_quoted s 0).grows
  read rest _ := by
    rw [write_text, writeText, readKind, readChoiceForm, skip_cons (by decide)]
    simp only [readChoice, readText_writeChars, checkWord, if_pos hs]

end Kinds

/-! ## Fields -/

section Fields

variable {cs mid rest : List Char} {first : Bool}

theorem readKeyStart_of_start (h : Start first cs ('"' :: rest)) :
    readKeyStart first cs = .ok (some (), rest) := by
  cases h with
  | first hblanks => rw [readKeyStart, skip_eq_cons hblanks (by decide)]; rfl
  | next hcomma hblanks =>
    have hquote : skip _ = '"' :: rest := skip_eq_cons hblanks (by decide)
    rw [readKeyStart, skip_eq_cons hcomma (by decide)]
    simp only [hquote]
    rfl

theorem readKeyStart_of_close (h : Blanks cs ('}' :: rest)) :
    readKeyStart first cs = .ok (none, '}' :: rest) := by
  rw [readKeyStart, skip_eq_cons h (by decide)]
  rfl

theorem readColon_of_blanks (h : Blanks cs (':' :: rest)) : readColon cs = .ok ((), rest) := by
  rw [readColon, skip_eq_cons h (by decide)]
  rfl

theorem length_lt_of_start (h : Start first cs ('"' :: rest)) : rest.length < cs.length := by
  cases h with
  | first hblanks => exact length_le_of_blanks hblanks
  | next hcomma hblanks =>
    have hbehind := length_le_of_blanks hblanks
    have hle := length_le_of_blanks hcomma
    rw [List.length_cons] at hbehind hle
    omega

/-- What is behind an entry does not go on with a number. -/
theorem endsNumber_of_laid {es : Record} (h : Laid false es cs) : EndsNumber cs := by
  have hends {c : Char} {rest : List Char} (hblanks : Blanks cs (c :: rest))
      (hc : c.isDigit = false ∧ c ≠ '.' ∧ c ≠ 'e' ∧ c ≠ 'E') : EndsNumber cs := by
    cases hblanks with
    | none => simpa [EndsNumber] using hc
    | more hblank _ =>
      simp only [isBlank, Bool.or_eq_true, decide_eq_true_eq] at hblank
      rcases hblank with ((rfl | rfl) | rfl) | rfl <;> simp [EndsNumber]
  cases h with
  | close hclose _ => exact hends hclose (by decide)
  | entry hstart _ _ _ =>
    cases hstart with
    | next hcomma _ => exact hends hcomma (by decide)

variable {s : Schema} {es : Record}

/-- Every entry is a field of the schema and is read back as one of the field's kind. -/
def Schema.Holds (s : Schema) (es : Record) : Prop :=
  ∀ e ∈ es, ∃ field, s.field? e.1 = some field ∧ ReadBack (readKind field.kind) e.2

theorem length_lt_of_laid (h : Laid first es cs) (hes : s.Holds es) : es.length < cs.length := by
  induction h with
  | close hclose _ => exact Nat.lt_of_lt_of_le (Nat.succ_pos _) (length_le_of_blanks hclose)
  | @entry _ key v es cs colon value rest hstart hcolon hvalue _ ih =>
    have hmore := ih fun e he => hes e (List.mem_cons_of_mem _ he)
    obtain ⟨field, -, hback⟩ := hes _ List.mem_cons_self
    have hkey := length_lt_of_start hstart
    have htext := length_lt_writeChars key.toList colon
    have hbefore := length_le_of_blanks hcolon
    have hfrom := length_le_of_blanks hvalue
    have hgrows := hback.grows rest
    rw [List.length_cons] at hbefore ⊢
    dsimp only at hgrows
    omega

/-- The entries of a layout are found in their order. -/
theorem readFields_of_laid (found : Record) (h : Laid first es cs) (hes : s.Holds es)
    (hdistinct : Record.Distinct (found ++ es)) {fuel : Nat} (hfuel : es.length < fuel) :
    ∃ rest, s.readFields fuel first found cs = .ok (found ++ es, '}' :: rest) ∧
      Blanks rest [] := by
  induction h generalizing found fuel with
  | close hclose hend =>
    obtain ⟨fuel, rfl⟩ := Nat.exists_eq_add_one_of_ne_zero (Nat.ne_of_gt hfuel)
    refine ⟨_, ?_, hend⟩
    rw [Schema.readFields, readKeyStart_of_close hclose, List.append_nil]
  | @entry _ key v es cs colon value rest hstart hcolon hvalue hmore ih =>
    rw [List.length_cons] at hfuel
    obtain ⟨fuel, rfl⟩ := Nat.exists_eq_add_one_of_ne_zero (n := fuel) (by omega)
    obtain ⟨field, hfield, hback⟩ := hes _ List.mem_cons_self
    have hread : readKind field.kind value = .ok (v, rest) := by
      rw [readKind_of_blanks field.kind hvalue]
      exact hback.read rest (endsNumber_of_laid hmore)
    have hnew : Record.has found key = false := by
      rw [Record.Distinct, Record.keys, List.map_append, List.nodup_append] at hdistinct
      have hkey : key ∉ Record.keys found := fun hmem =>
        hdistinct.2.2 key hmem key List.mem_cons_self rfl
      rw [Record.has, Record.get?_eq_none_iff.mpr hkey]
      rfl
    have hsplit : found ++ (key, v) :: es = (found ++ [(key, v)]) ++ es :=
      List.append_cons found (key, v) es
    rw [readFields_field (readKeyStart_of_start hstart) hfield hnew (readColon_of_blanks hcolon)
      hread, hsplit]
    rw [hsplit] at hdistinct
    exact ih _ (fun e he => hes e (List.mem_cons_of_mem _ he)) hdistinct (by omega)

/-- A layout of fields of a schema is read as the values that they fill the schema with. -/
theorem Schema.read_of_laidOut {source : List Char} {vs : List Value} (h : LaidOut es source)
    (hes : s.Holds es) (hdistinct : Record.Distinct es) (hfill : fill es s.fields = .ok vs) :
    s.read source = .ok vs := by
  obtain ⟨cs, hopen, hlaid⟩ := h
  have hlength := length_lt_of_laid hlaid hes
  obtain ⟨rest, hfields, hend⟩ := readFields_of_laid [] hlaid hes hdistinct
    (Nat.lt_succ_of_lt hlength)
  have hbehind : behind '}' ('}' :: rest) = rest := by
    rw [behind, skip_cons (by decide)]
    exact if_pos rfl
  rw [List.nil_append] at hfields
  rw [Schema.read, Schema.readFrom, skip_eq_cons hopen (by decide)]
  simp only [hfields, hfill, hbehind]
  rw [readEnd, skip_of_blanks hend]
  rfl

end Fields

end ActionTree.Json
