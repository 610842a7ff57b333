import ActionTree.Proofs.JsonText
import ActionTree.Proofs.Record

/-!
# ActionTree.Proofs.JsonValue

A value is read back from its compact form.

1. of numbers this is shown for integers: their digits are collected whole if the integer
   fits 64 bits, and a double is another matter, as it is read with two roundings;
2. a record is put together again entry by entry, which gives it back if no key is in it
   twice (`merge_nil`);
3. a reader opens so many lists and records, one inside the other, as it has depth for
   (`Value.nesting`).

`readBack` is the induction over the value, one case for each kind, and `read_compact` what
comes of it for a whole text.
-/

namespace ActionTree

open Text

/-! ## Values that are read back -/

namespace Value

mutual

/-- How many lists and records stand inside one another in a value. -/
def nesting : Value → Nat
  | list vs => nestingOfItems vs + 1
  | record es => nestingOfEntries es + 1
  | _ => 0

/-- The greatest nesting among items. -/
def nestingOfItems : List Value → Nat
  | [] => 0
  | v :: vs => max v.nesting (nestingOfItems vs)

/-- The greatest nesting among entries. -/
def nestingOfEntries : List (String × Value) → Nat
  | [] => 0
  | (_, v) :: es => max v.nesting (nestingOfEntries es)

end

theorem nesting_le_of_mem_items {v : Value} {vs : List Value} (h : v ∈ vs) :
    v.nesting ≤ nestingOfItems vs := by
  induction vs with
  | nil => simp at h
  | cons w vs ih =>
    rw [nestingOfItems]
    rcases List.mem_cons.1 h with rfl | h
    · exact Nat.le_max_left _ _
    · exact Nat.le_trans (ih h) (Nat.le_max_right _ _)

theorem nesting_le_of_mem_entries {e : String × Value} {es : List (String × Value)} (h : e ∈ es) :
    e.2.nesting ≤ nestingOfEntries es := by
  induction es with
  | nil => simp at h
  | cons f es ih =>
    rw [nestingOfEntries]
    rcases List.mem_cons.1 h with rfl | h
    · exact Nat.le_max_left _ _
    · exact Nat.le_trans (ih h) (Nat.le_max_right _ _)

/-- The numbers in a value are integers, each of 64 bits with a sign or without, and no key is
in a record twice. -/
inductive Integral : Value → Prop where
  | null : Integral null
  | boolean (b : Bool) : Integral (boolean b)
  | integer {n : Int} (least : leastInt64 ≤ n) (limit : n < pow2 64) : Integral (int n)
  | text (s : String) : Integral (text s)
  | list {vs : List Value} (items : ∀ v ∈ vs, Integral v) : Integral (list vs)
  | record {es : List (String × Value)} (distinct : Record.Distinct es)
      (entries : ∀ e ∈ es, Integral e.2) : Integral (record es)

end Value

namespace Record

theorem insert_of_not_mem {r : Record} {key : String} (h : key ∉ keys r) (v : Value) :
    insert r key v = r ++ [(key, v)] := by
  induction r with
  | nil => rfl
  | cons e r ih =>
    rw [keys_cons, List.mem_cons, not_or] at h
    rw [insert, if_neg (Ne.symm h.1), ih h.2, List.cons_append]

theorem merge_append {r more : Record} (h : Distinct (r ++ more)) : merge r more = r ++ more := by
  induction more generalizing r with
  | nil => exact (List.append_nil r).symm
  | cons e more ih =>
    have hsplit : r ++ e :: more = (r ++ [e]) ++ more := by simp
    have hnew : e.1 ∉ keys r := by
      rw [Distinct, keys, List.map_append, List.map_cons, List.nodup_append] at h
      exact fun hmem => h.2.2 _ hmem _ List.mem_cons_self rfl
    rw [hsplit] at h ⊢
    rw [← ih h, merge, List.foldl_cons, insert_of_not_mem hnew]
    rfl

/-- Entries with distinct keys make the record of them. -/
theorem merge_nil {es : Record} (h : Distinct es) : merge [] es = es := merge_append h

end Record

namespace Json

/-! ## Integers -/

theorem le_ofDigitChars (ds : List Char) (n : Nat) : n ≤ Nat.ofDigitChars 10 ds n := by
  rw [Nat.ofDigitChars_eq_ofDigitChars_zero]
  have hpos : 1 ≤ 10 ^ ds.length := Nat.one_le_pow _ _ (by decide)
  exact Nat.le_trans (Nat.le_mul_of_pos_left n hpos) (Nat.le_add_right _ _)

/-- Digits are collected to the last, if the number that they write is within the limit. -/
theorem absorb_of_le {ds : List Char} {n : Nat} (h : Nat.ofDigitChars 10 ds n ≤ digitLimit) :
    absorb n ds = (Nat.ofDigitChars 10 ds n, []) := by
  induction ds generalizing n with
  | nil => rfl
  | cons c ds ih =>
    rw [Nat.ofDigitChars_cons] at h ⊢
    have hstep : Nat.ofDigitChars 10 [c] n = 10 * n + (c.toNat - '0'.toNat) := by
      rw [Nat.ofDigitChars_cons]
      rfl
    have hle : Nat.ofDigitChars 10 [c] n ≤ digitLimit :=
      hstep ▸ Nat.le_trans (le_ofDigitChars ds _) h
    rw [absorb, if_pos hle, hstep, ih h]

/-- Only the numeral of zero begins with a zero. -/
theorem exists_digitsOf {n : Nat} : ∃ c ds, digitsOf n = c :: ds ∧ c.isDigit = true ∧
    (c = '0' → n = 0 ∧ ds = []) := by
  induction n using Nat.strongRecOn with
  | ind n ih =>
    rw [digitsOf]
    by_cases hn : n < 10
    · rw [Nat.toDigits_of_lt_base hn]
      have hdigits : ∀ m : Nat, m < 10 →
          m.digitChar.isDigit = true ∧ (m.digitChar = '0' → m = 0) := by decide
      exact ⟨n.digitChar, [], rfl, (hdigits n hn).1, fun hc => ⟨(hdigits n hn).2 hc, rfl⟩⟩
    · obtain ⟨c, ds, heq, hdigit, hzero⟩ := ih (n / 10) (by omega)
      rw [Nat.toDigits_of_base_le (by decide) (by omega), ← digitsOf, heq]
      refine ⟨c, ds ++ [(n % 10).digitChar], rfl, hdigit, fun hc => ?_⟩
      have := (hzero hc).1
      omega

theorem readTail_of_endsNumber {rest : List Char} (hrest : EndsNumber rest) (negative : Bool)
    (n : Nat) : readTail negative n 0 rest = .ok (wholeNumber negative n, rest) := by
  cases rest with
  | nil => rfl
  | cons c r =>
    obtain ⟨-, hpoint, hsmall, hcapital⟩ := hrest c rfl
    unfold readTail
    split
    · next h => exact absurd (List.cons.inj h).1 hpoint
    · next h => exact absurd (List.cons.inj h).1 hsmall
    · next h => exact absurd (List.cons.inj h).1 hcapital
    · rfl

theorem readNumber_digitsOf {n : Nat} (hn : n < pow2 64) {rest : List Char}
    (hrest : EndsNumber rest) (negative : Bool) :
    readNumber negative (digitsOf n ++ rest) = .ok (wholeNumber negative n, rest) := by
  obtain ⟨c, ds, heq, hdigit, hzero⟩ := exists_digitsOf (n := n)
  unfold readNumber
  split
  · next h => simp [heq] at h
  · next r h =>
    rw [heq] at h
    obtain ⟨hc, hr⟩ := List.cons.inj h
    obtain ⟨rfl, rfl⟩ := hzero hc
    obtain rfl : rest = r := hr
    have htail := readTail_of_endsNumber hrest negative 0
    cases rest with
    | nil => exact htail
    | cons d r =>
      have hd : ¬ d.isDigit = true := by simp [(hrest d rfl).1]
      dsimp only
      rw [if_neg hd, htail]
  · next d r _ h =>
    have hd : d = c := by
      rw [heq] at h
      exact (List.cons.inj h).1.symm
    have hall : ∀ d ∈ digitsOf n, d.isDigit = true := fun d hd => isDigit_of_mem_digitsOf hd
    have hnumber : Nat.ofDigitChars 10 (digitsOf n) 0 = n := numberOf_digitsOf n
    have habsorb : absorb 0 (digitsOf n) = (n, []) := by
      rw [absorb_of_le (by rw [hnumber, digitLimit]; exact Nat.le_sub_one_of_lt hn), hnumber]
    have hstop : rest.takeWhile Char.isDigit = [] ∧ rest.dropWhile Char.isDigit = rest := by
      cases rest with
      | nil => exact ⟨rfl, rfl⟩
      | cons e r => simp [(hrest e rfl).1]
    rw [hd, if_pos hdigit, List.takeWhile_append_of_pos hall, List.dropWhile_append_of_pos hall,
      hstop.1, hstop.2, List.append_nil, habsorb]
    exact readTail_of_endsNumber hrest negative n

theorem wholeNumber_of_neg {n : Nat} (hn : n ≠ 0) (hle : n ≤ pow2 63) :
    wholeNumber true n = .integer (-n) := by
  rw [wholeNumber, if_pos rfl, if_neg]
  simp only [Bool.or_eq_true, decide_eq_true_eq, not_or, Nat.not_lt]
  exact ⟨hn, hle⟩

theorem isBlank_of_isDigit {c : Char} (hc : c.isDigit = true) : isBlank c = false := by
  cases h : isBlank c with
  | false => rfl
  | true =>
    simp only [isBlank, Bool.or_eq_true, decide_eq_true_eq] at h
    rcases h with ((rfl | rfl) | rfl) | rfl <;> simp at hc

/-- What begins with a digit is a number. -/
theorem readValue_of_digit {c : Char} (hc : c.isDigit = true) {r rest : List Char} {n : Number}
    (hread : readNumber false (c :: r) = .ok (n, rest)) (depth : Nat) :
    readValue depth (c :: r) = .ok (.number n, rest) := by
  have hne {d : Char} (hd : d.isDigit = false) : c ≠ d := by
    rintro rfl
    rw [hc] at hd
    contradiction
  rw [readValue.eq_def]
  dsimp only
  rw [skip_cons (isBlank_of_isDigit hc)]
  split
  · contradiction
  iterate 7
    · next h => exact absurd (List.cons.inj h).1 (hne (by decide))
  · next h =>
    obtain ⟨rfl, rfl⟩ := List.cons.inj h
    rw [if_pos hc, hread]

/-- An integer is read back. -/
theorem readBack_int {n : Int} (least : leastInt64 ≤ n) (limit : n < pow2 64) (depth : Nat) :
    ReadBack (readValue depth) (.int n) where
  begins rest := by
    rw [Value.int, write_number, Number.chars]
    cases n with
    | ofNat n =>
      obtain ⟨c, ds, heq, hdigit, -⟩ := exists_digitsOf (n := n)
      refine ⟨c, ds ++ rest, by rw [intChars, heq]; rfl, isBlank_of_isDigit hdigit, ?_⟩
      rintro rfl
      simp at hdigit
    | negSucc n => exact ⟨'-', digitsOf (n + 1) ++ rest, rfl, by decide, by decide⟩
  grows rest := by
    rw [Value.int, write_number, List.length_append]
    exact Nat.le_add_left _ _
  read rest hrest := by
    rw [Value.int, write_number, Number.chars]
    cases n with
    | ofNat n =>
      have hn : n < pow2 64 := Int.ofNat_lt.1 limit
      obtain ⟨c, ds, heq, hdigit, -⟩ := exists_digitsOf (n := n)
      have hread := readNumber_digitsOf hn hrest false
      rw [heq, List.cons_append] at hread
      rw [intChars, heq, List.cons_append, readValue_of_digit hdigit hread]
      rfl
    | negSucc n =>
      have hle : n + 1 ≤ pow2 63 := by
        have hlimit : pow2 63 = 9223372036854775808 := rfl
        rw [leastInt64] at least
        omega
      have hread := readNumber_digitsOf (Nat.lt_of_le_of_lt hle (by decide)) hrest true
      have hdash : isBlank '-' = false := by decide
      rw [wholeNumber_of_neg (Nat.succ_ne_zero n) hle] at hread
      rw [intChars, List.cons_append, readValue.eq_def]
      simp only [skip_cons hdash, hread]
      rfl

/-! ## Words and texts -/

theorem readBack_null (depth : Nat) : ReadBack (readValue depth) .null where
  begins rest := ⟨'n', _, rfl, by decide, by decide⟩
  grows rest := by
    rw [write_null]
    simp only [List.length_cons]
    omega
  read rest _ := by
    have hskip : isBlank 'n' = false := by decide
    rw [write_null, readValue.eq_def]
    simp only [skip_cons hskip]
    rfl

theorem readBack_boolean (b : Bool) (depth : Nat) : ReadBack (readValue depth) (.boolean b) where
  begins rest := by
    cases b with
    | true => exact ⟨'t', _, rfl, by decide, by decide⟩
    | false => exact ⟨'f', _, rfl, by decide, by decide⟩
  grows rest := by
    cases b <;> (simp only [write_true, write_false, List.length_cons]; omega)
  read rest _ := by
    have ht : isBlank 't' = false := by decide
    have hf : isBlank 'f' = false := by decide
    cases b with
    | true =>
      rw [write_true, readValue.eq_def]
      simp only [skip_cons ht]
      rfl
    | false =>
      rw [write_false, readValue.eq_def]
      simp only [skip_cons hf]
      rfl

theorem length_lt_writeText (s : String) (rest : List Char) :
    rest.length < (writeText s rest).length := by
  have hlength := length_lt_writeChars s.toList rest
  rw [writeText, List.length_cons]
  omega

theorem readBack_quoted (s : String) (depth : Nat) : ReadBack (readValue depth) (.text s) where
  begins rest := ⟨'"', writeChars s.toList rest, rfl, by decide, by decide⟩
  grows rest := Nat.le_of_lt (length_lt_writeText s rest)
  read rest _ := readValue_writeText depth s rest

/-! ## Lists and records -/

theorem length_lt_writeItems {item : List Char → Reading Value} {vs : List Value}
    (hvs : ∀ v ∈ vs, ReadBack item v) (rest : List Char) :
    rest.length < (writeItems vs rest).length := by
  cases vs with
  | nil => exact Nat.lt_succ_self _
  | cons v vs =>
    have hmore := length_lt_writeMoreItems rest fun w hw => hvs w (List.mem_cons_of_mem _ hw)
    have hv := (hvs v List.mem_cons_self).grows (writeMoreItems vs rest)
    rw [writeItems_cons]
    omega

/-- A list is read back if its items are, one level further in. -/
theorem readBack_list {vs : List Value} {depth : Nat}
    (hvs : ∀ v ∈ vs, ReadBack (readValue depth) v) :
    ReadBack (readValue (depth + 1)) (.list vs) where
  begins rest := ⟨'[', writeItems vs rest, rfl, by decide, by decide⟩
  grows rest := by
    have hlength := length_lt_writeItems hvs rest
    rw [write_list, List.length_cons]
    omega
  read rest _ := by
    have hbracket : isBlank '[' = false := by decide
    rw [write_list, readValue.eq_def]
    simp only [skip_cons hbracket, readItems_writeItems rest hvs]

section Entries

variable {value : List Char → Reading Value}

theorem endsNumber_writeMoreEntries (es : List (String × Value)) (rest : List Char) :
    EndsNumber (writeMoreEntries es rest) := by
  cases es with
  | nil => simp [EndsNumber, writeMoreEntries_nil]
  | cons e es => simp [EndsNumber, writeMoreEntries_cons]

theorem readEntry_writeChars (rest : List Char) {e : String × Value} (he : ReadBack value e.2)
    (es : List (String × Value)) :
    readEntry value (writeChars e.1.toList (':' :: write e.2 (writeMoreEntries es rest))) =
      .ok (e, writeMoreEntries es rest) := by
  have hcolon : isBlank ':' = false := by decide
  have hread := he.read _ (endsNumber_writeMoreEntries es rest)
  simp only [readEntry, readText_writeChars, readColon, skip_cons hcolon, hread]

theorem length_lt_writeMoreEntries (rest : List Char) {es : List (String × Value)}
    (hes : ∀ e ∈ es, ReadBack value e.2) :
    es.length + rest.length < (writeMoreEntries es rest).length := by
  induction es with
  | nil => exact Nat.lt_of_le_of_lt (Nat.le_of_eq (Nat.zero_add _)) (Nat.lt_succ_self _)
  | cons e es ih =>
    have hmore := ih fun f hf => hes f (List.mem_cons_of_mem _ hf)
    have he := (hes e List.mem_cons_self).grows (writeMoreEntries es rest)
    have hkey := length_lt_writeText e.1 (':' :: write e.2 (writeMoreEntries es rest))
    rw [writeMoreEntries_cons, List.length_cons, List.length_cons]
    rw [List.length_cons] at hkey
    omega

theorem readMoreEntries_writeMoreEntries (rest : List Char) {es : List (String × Value)}
    (hes : ∀ e ∈ es, ReadBack value e.2) {fuel : Nat} (hfuel : es.length < fuel) :
    readMoreEntries value fuel (writeMoreEntries es rest) = .ok (es, rest) := by
  induction es generalizing fuel with
  | nil =>
    obtain ⟨fuel, rfl⟩ := Nat.exists_eq_add_one_of_ne_zero (Nat.ne_of_gt hfuel)
    rfl
  | cons e es ih =>
    rw [List.length_cons] at hfuel
    obtain ⟨fuel, rfl⟩ := Nat.exists_eq_add_one_of_ne_zero (n := fuel) (by omega)
    have hmore : readMoreEntries value fuel (writeMoreEntries es rest) = .ok (es, rest) :=
      ih (fun f hf => hes f (List.mem_cons_of_mem _ hf)) (by omega)
    have hcomma : isBlank ',' = false := by decide
    have hquote : isBlank '"' = false := by decide
    simp only [writeMoreEntries_cons, writeText, readMoreEntries, skip_cons hcomma, skip_cons hquote,
      readEntry_writeChars rest (hes e List.mem_cons_self) es, hmore]

/-- The entries of a record are read back if the value of each of them is. -/
theorem readEntries_writeEntries (rest : List Char) {es : List (String × Value)}
    (hes : ∀ e ∈ es, ReadBack value e.2) :
    readEntries value (writeEntries es rest) = .ok (es, rest) := by
  cases es with
  | nil => rfl
  | cons e es =>
    have hes' : ∀ f ∈ es, ReadBack value f.2 := fun f hf => hes f (List.mem_cons_of_mem _ hf)
    have hlength := length_lt_writeMoreEntries rest hes'
    have hfuel : es.length < (writeMoreEntries es rest).length + 1 := by omega
    have hmore := readMoreEntries_writeMoreEntries rest hes' hfuel
    have hquote : isBlank '"' = false := by decide
    simp only [writeEntries_cons, writeText, readEntries, skip_cons hquote,
      readEntry_writeChars rest (hes e List.mem_cons_self) es, hmore]

theorem length_lt_writeEntries (rest : List Char) {es : List (String × Value)}
    (hes : ∀ e ∈ es, ReadBack value e.2) : rest.length < (writeEntries es rest).length := by
  cases es with
  | nil => exact Nat.lt_succ_self _
  | cons e es =>
    have hmore := length_lt_writeMoreEntries rest fun f hf => hes f (List.mem_cons_of_mem _ hf)
    have he := (hes e List.mem_cons_self).grows (writeMoreEntries es rest)
    have hkey := length_lt_writeText e.1 (':' :: write e.2 (writeMoreEntries es rest))
    rw [writeEntries_cons]
    rw [List.length_cons] at hkey
    omega

end Entries

/-- A record is read back if its values are, one level further in. -/
theorem readBack_record {es : List (String × Value)} {depth : Nat} (hdistinct : Record.Distinct es)
    (hes : ∀ e ∈ es, ReadBack (readValue depth) e.2) :
    ReadBack (readValue (depth + 1)) (.record es) where
  begins rest := ⟨'{', writeEntries es rest, rfl, by decide, by decide⟩
  grows rest := by
    have hlength := length_lt_writeEntries rest hes
    rw [write_record, List.length_cons]
    omega
  read rest _ := by
    have hbrace : isBlank '{' = false := by decide
    rw [write_record, readValue.eq_def]
    simp only [skip_cons hbrace, readEntries_writeEntries rest hes, Record.merge_nil hdistinct]

/-! ## Whole values -/

/-- A value that is not nested too deep is read back. -/
theorem readBack {v : Value} (hv : v.Integral) {depth : Nat} (hdepth : v.nesting ≤ depth) :
    ReadBack (readValue depth) v := by
  induction hv generalizing depth with
  | null => exact readBack_null depth
  | boolean b => exact readBack_boolean b depth
  | integer least limit => exact readBack_int least limit depth
  | text s => exact readBack_quoted s depth
  | list _ ih =>
    rw [Value.nesting] at hdepth
    obtain ⟨depth, rfl⟩ := Nat.exists_eq_add_one_of_ne_zero (n := depth) (by omega)
    refine readBack_list fun v hv => ih v hv ?_
    exact Nat.le_trans (Value.nesting_le_of_mem_items hv) (Nat.le_of_succ_le_succ hdepth)
  | record hdistinct _ ih =>
    rw [Value.nesting] at hdepth
    obtain ⟨depth, rfl⟩ := Nat.exists_eq_add_one_of_ne_zero (n := depth) (by omega)
    refine readBack_record hdistinct fun e he => ih e he ?_
    exact Nat.le_trans (Value.nesting_le_of_mem_entries he) (Nat.le_of_succ_le_succ hdepth)

/-- The compact form of a value is read back. -/
theorem read_compact {v : Value} (hv : v.Integral) (hdepth : v.nesting ≤ maxDepth) :
    read (compact v).toList = .ok v := by
  have hend : EndsNumber [] := by simp [EndsNumber]
  rw [compact, String.toList_ofList, read, (readBack hv hdepth).read [] hend]
  rfl

end Json

end ActionTree
