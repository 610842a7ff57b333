import ActionTree.Json.Bytes
import ActionTree.Json.Printer
import ActionTree.Json.Shape.Reader
import ActionTree.Proofs.Utf8

/-!
# ActionTree.Proofs.JsonText

What the printer writes in quotes and brackets is read back.

1. a character stands for itself or behind a backslash, and what stands behind the
   backslash is read back as the character (`escapeChar_cases`);
2. a text is read back with what follows it (`readText_writeChars`), and so are the
   items of a list if each of them is (`readItems_writeItems`);
3. no line is ended inside of quotes (`newline_not_mem_writeText`);
4. from the bytes of a text a reader gets what it gets from the text
   (`readBytes_encode`), and from other bytes no more than from the characters that are
   read for them (`readBytes_eq_ok_iff`).
-/

namespace ActionTree.Json

/-! ## Characters -/

theorem hexValue?_hexDigit {n : Nat} (hn : n < 16) : hexValue? (hexDigit n) = some n := by
  revert n
  decide

/-- A control character below the space, written by its number. -/
theorem readEscape_number {c : Char} (hc : c.toNat < 0x20) (rest : List Char) :
    readEscape ('u' :: '0' :: '0' :: hexDigit (c.toNat / 16) :: hexDigit (c.toNat % 16) :: rest) =
      .ok (c, rest) := by
  have hzero : hexValue? '0' = some 0 := by decide
  have hhigh : hexValue? (hexDigit (c.toNat / 16)) = some (c.toNat / 16) :=
    hexValue?_hexDigit (by omega)
  have hlow : hexValue? (hexDigit (c.toNat % 16)) = some (c.toNat % 16) :=
    hexValue?_hexDigit (by omega)
  have hnumber : ((0 * 16 + 0) * 16 + c.toNat / 16) * 16 + c.toNat % 16 = c.toNat := by omega
  simp only [readEscape, readCodeUnit, readHex, hzero, hhigh, hlow, hnumber]
  rw [if_neg (by simp; omega), if_neg (by simp; omega), Char.ofNat_toNat]

theorem newline_ne_hexDigit {n : Nat} (hn : n < 16) : '\n' ≠ hexDigit n := by
  revert n
  decide

/-- A character in quotes stands for itself, or is read back from what stands behind a
backslash. -/
theorem escapeChar_cases (c : Char) :
    (escapeChar c = [c] ∧ c ≠ '"' ∧ c ≠ '\\' ∧ ¬ c.toNat < 0x20) ∨
      ∃ tail, escapeChar c = '\\' :: tail ∧ '\n' ∉ tail ∧
        ∀ rest, readEscape (tail ++ rest) = .ok (c, rest) := by
  unfold escapeChar
  split
  · next h => exact .inr ⟨['"'], rfl, by decide, fun _ => by rw [h]; rfl⟩
  split
  · next h => exact .inr ⟨['\\'], rfl, by decide, fun _ => by rw [h]; rfl⟩
  split
  · next h => exact .inr ⟨['b'], rfl, by decide, fun _ => by rw [h]; rfl⟩
  split
  · next h => exact .inr ⟨['f'], rfl, by decide, fun _ => by rw [h]; rfl⟩
  split
  · next h => exact .inr ⟨['n'], rfl, by decide, fun _ => by rw [h]; rfl⟩
  split
  · next h => exact .inr ⟨['r'], rfl, by decide, fun _ => by rw [h]; rfl⟩
  split
  · next h => exact .inr ⟨['t'], rfl, by decide, fun _ => by rw [h]; rfl⟩
  split
  · next h =>
    refine .inr ⟨_, rfl, ?_, readEscape_number h⟩
    simp only [List.mem_cons, List.not_mem_nil, or_false, not_or]
    exact ⟨by decide, by decide, by decide, newline_ne_hexDigit (by omega),
      newline_ne_hexDigit (by omega)⟩
  · next hquote hslash _ _ _ _ _ hcontrol => exact .inl ⟨rfl, hquote, hslash, hcontrol⟩

/-! ## Texts -/

theorem readChars_writeChars (cs rest : List Char) {fuel : Nat} (hfuel : cs.length < fuel) :
    readChars fuel (writeChars cs rest) = .ok (cs, rest) := by
  induction cs generalizing fuel with
  | nil =>
    obtain ⟨fuel, rfl⟩ := Nat.exists_eq_add_one_of_ne_zero (Nat.ne_of_gt hfuel)
    rfl
  | cons c cs ih =>
    rw [List.length_cons] at hfuel
    obtain ⟨fuel, rfl⟩ := Nat.exists_eq_add_one_of_ne_zero (n := fuel) (by omega)
    have hcs : readChars fuel (writeChars cs rest) = .ok (cs, rest) := ih (by omega)
    rw [writeChars]
    obtain ⟨hc, hquote, hslash, hcontrol⟩ | ⟨tail, hc, -, htail⟩ := escapeChar_cases c
    · rw [hc, List.singleton_append, readChars]
      · rw [if_neg hcontrol, hcs]
      · exact hquote
      · exact hslash
    · rw [hc, List.cons_append, readChars]
      simp [htail, hcs]

theorem length_lt_writeChars (cs rest : List Char) :
    cs.length + rest.length < (writeChars cs rest).length := by
  induction cs with
  | nil => simp [writeChars]
  | cons c cs ih =>
    have hne : 1 ≤ (escapeChar c).length := by
      obtain ⟨hc, -⟩ | ⟨tail, hc, -⟩ := escapeChar_cases c
      · rw [hc]; exact Nat.le_refl _
      · rw [hc]; simp
    rw [writeChars, List.length_append, List.length_cons]
    omega

/-- A text is read back, with what follows it. -/
theorem readText_writeChars (s : String) (rest : List Char) :
    readText (writeChars s.toList rest) = .ok (s, rest) := by
  have hlength := length_lt_writeChars s.toList rest
  rw [readText, readChars_writeChars _ _ (by omega)]
  simp only [String.ofList_toList]

theorem newline_not_mem_writeChars {rest : List Char} (hrest : '\n' ∉ rest) (cs : List Char) :
    '\n' ∉ writeChars cs rest := by
  induction cs with
  | nil => simpa [writeChars] using hrest
  | cons c cs ih =>
    rw [writeChars, List.mem_append, not_or]
    refine ⟨?_, ih⟩
    obtain ⟨hc, -, -, hcontrol⟩ | ⟨tail, hc, htail, -⟩ := escapeChar_cases c
    · rw [hc, List.mem_singleton]
      rintro rfl
      exact hcontrol (by decide)
    · rw [hc, List.mem_cons, not_or]
      exact ⟨by decide, htail⟩

/-- No line is ended inside of quotes. -/
theorem newline_not_mem_writeText {rest : List Char} (hrest : '\n' ∉ rest) (s : String) :
    '\n' ∉ writeText s rest := by
  rw [writeText, List.mem_cons, not_or]
  exact ⟨by decide, newline_not_mem_writeChars hrest s.toList⟩

/-! ## Lists -/

theorem skip_cons {c : Char} (hc : isBlank c = false) (cs : List Char) :
    skip (c :: cs) = c :: cs := by
  rw [skip, List.dropWhile_cons_of_neg (by rw [hc]; exact Bool.false_ne_true)]

/-- What may stand behind a number: nothing that the number could go on with. -/
def EndsNumber (rest : List Char) : Prop :=
  ∀ c ∈ rest.head?, c.isDigit = false ∧ c ≠ '.' ∧ c ≠ 'e' ∧ c ≠ 'E'

theorem endsNumber_writeMoreItems (vs : List Value) (rest : List Char) :
    EndsNumber (writeMoreItems vs rest) := by
  cases vs with
  | nil => simp [EndsNumber, writeMoreItems_nil]
  | cons v vs => simp [EndsNumber, writeMoreItems_cons]

/-- A value that a reader takes back from in front of whatever ends a number, and that shows
by its first character that it is one. -/
structure ReadBack (item : List Char → Reading Value) (v : Value) : Prop where
  begins : ∀ rest, ∃ c r, write v rest = c :: r ∧ isBlank c = false ∧ c ≠ ']'
  grows : ∀ rest, rest.length ≤ (write v rest).length
  read : ∀ rest, EndsNumber rest → item (write v rest) = .ok (v, rest)

section Items

variable {item : List Char → Reading Value}

theorem readMoreItems_writeMoreItems (rest : List Char) {vs : List Value}
    (hvs : ∀ v ∈ vs, ReadBack item v) {fuel : Nat} (hfuel : vs.length < fuel) :
    readMoreItems item fuel (writeMoreItems vs rest) = .ok (vs, rest) := by
  induction vs generalizing fuel with
  | nil =>
    obtain ⟨fuel, rfl⟩ := Nat.exists_eq_add_one_of_ne_zero (Nat.ne_of_gt hfuel)
    rfl
  | cons v vs ih =>
    rw [List.length_cons] at hfuel
    obtain ⟨fuel, rfl⟩ := Nat.exists_eq_add_one_of_ne_zero (n := fuel) (by omega)
    have hv : ReadBack item v := hvs v List.mem_cons_self
    have hmore : readMoreItems item fuel (writeMoreItems vs rest) = .ok (vs, rest) :=
      ih (fun w hw => hvs w (List.mem_cons_of_mem _ hw)) (by omega)
    have hread := hv.read (writeMoreItems vs rest) (endsNumber_writeMoreItems vs rest)
    obtain ⟨c, r, hbegins, hblank, hclose⟩ := hv.begins (writeMoreItems vs rest)
    rw [hbegins] at hread
    have hcomma : isBlank ',' = false := by decide
    have hhead : ¬ (c :: r).head? = some ']' := by simpa using hclose
    simp only [writeMoreItems_cons, hbegins, readMoreItems, skip_cons hcomma, skip_cons hblank]
    rw [if_neg hhead, hread]
    simp only [hmore]

theorem length_lt_writeMoreItems (rest : List Char) {vs : List Value}
    (hvs : ∀ v ∈ vs, ReadBack item v) :
    vs.length + rest.length < (writeMoreItems vs rest).length := by
  induction vs with
  | nil => exact Nat.lt_of_le_of_lt (Nat.le_of_eq (Nat.zero_add _)) (Nat.lt_succ_self _)
  | cons v vs ih =>
    have hmore := ih fun w hw => hvs w (List.mem_cons_of_mem _ hw)
    have hv := (hvs v List.mem_cons_self).grows (writeMoreItems vs rest)
    rw [writeMoreItems_cons, List.length_cons, List.length_cons]
    omega

/-- The items of a list are read back if each of them is. -/
theorem readItems_writeItems (rest : List Char) {vs : List Value}
    (hvs : ∀ v ∈ vs, ReadBack item v) : readItems item (writeItems vs rest) = .ok (vs, rest) := by
  cases vs with
  | nil => rfl
  | cons v vs =>
    have hv : ReadBack item v := hvs v List.mem_cons_self
    have hvs' : ∀ w ∈ vs, ReadBack item w := fun w hw => hvs w (List.mem_cons_of_mem _ hw)
    have hlength := length_lt_writeMoreItems rest hvs'
    have hfuel : vs.length < (writeMoreItems vs rest).length + 1 := by omega
    have hmore := readMoreItems_writeMoreItems rest hvs' hfuel
    have hread := hv.read (writeMoreItems vs rest) (endsNumber_writeMoreItems vs rest)
    obtain ⟨c, r, hbegins, hblank, hclose⟩ := hv.begins (writeMoreItems vs rest)
    rw [hbegins] at hread
    rw [writeItems_cons, hbegins, readItems, skip_cons hblank]
    split
    · contradiction
    · next h => exact absurd (List.cons.inj h).1 hclose
    · rw [hread]
      simp only [hmore]

end Items

theorem readValue_writeText (depth : Nat) (s : String) (rest : List Char) :
    readValue depth ('"' :: writeChars s.toList rest) = .ok (.text s, rest) := by
  rw [readValue.eq_def]
  dsimp only
  rw [skip_cons (by decide)]
  simp only [readText_writeChars]

/-- A text among the items of a list. -/
theorem readBack_text (wording s : String) : ReadBack (readPlain (.text wording)) (.text s) where
  begins rest := ⟨'"', writeChars s.toList rest, rfl, by decide, by decide⟩
  grows rest := by
    have hlength := length_lt_writeChars s.toList rest
    rw [write_text, writeText, List.length_cons]
    omega
  read rest _ := by
    rw [write_text, writeText, readPlain, skip_cons (by decide)]
    simp [readValue_writeText, Kind.check]

theorem newline_not_mem_writeMoreItems {rest : List Char} (hrest : '\n' ∉ rest)
    (ss : List String) : '\n' ∉ writeMoreItems (ss.map Value.text) rest := by
  induction ss with
  | nil => simpa [writeMoreItems_nil] using hrest
  | cons s ss ih =>
    rw [List.map_cons, writeMoreItems_cons, write_text, List.mem_cons, not_or]
    exact ⟨by decide, newline_not_mem_writeText ih s⟩

/-- No line is ended among texts. -/
theorem newline_not_mem_writeItems {rest : List Char} (hrest : '\n' ∉ rest) (ss : List String) :
    '\n' ∉ writeItems (ss.map Value.text) rest := by
  cases ss with
  | nil => simpa [writeItems_nil] using hrest
  | cons s ss =>
    rw [List.map_cons, writeItems_cons, write_text]
    exact newline_not_mem_writeText (newline_not_mem_writeMoreItems hrest ss) s

/-! ## Fields -/

/-- A field is read if its key opens, it is a new one of the schema, and its value is
read. -/
theorem readFields_field {s : Schema} {fuel : Nat} {first : Bool} {found : Record}
    {key : String} {field : Field} {v : Value} {cs r r' rest : List Char}
    (hstart : readKeyStart first cs = .ok (some (), writeChars key.toList r))
    (hfield : s.field? key = some field) (hnew : Record.has found key = false)
    (hcolon : readColon r = .ok ((), r')) (hread : readKind field.kind r' = .ok (v, rest)) :
    s.readFields (fuel + 1) first found cs =
      s.readFields fuel false (found ++ [(key, v)]) rest := by
  have hvalue : s.readFieldOf found key r = .ok (found ++ [(key, v)], rest) := by
    rw [Schema.readFieldOf, hfield]
    dsimp only
    rw [if_neg (by rw [hnew]; exact Bool.false_ne_true), hcolon]
    dsimp only
    rw [hread]
  rw [Schema.readFields, hstart]
  dsimp only
  rw [readText_writeChars]
  dsimp only
  rw [hvalue]

/-! ## Bytes -/

/-- The characters that are read for bytes. -/
def charsOf (bytes : List UInt8) : List Char := (Text.decodeEach bytes).map fun c => c.getD standIn

theorem charsOf_encode (s : String) : charsOf (Text.encode s) = s.toList := by
  rw [charsOf, Text.decodeEach_encode, List.map_map]
  exact List.map_id s.toList

/-- Where every byte belongs to a character, no text is broken. -/
theorem brokenTexts_eq_nil {index : Nat} {seen : Option Bool} {cs : List (Option Char)}
    (hcs : none ∉ cs) (hseen : seen ≠ some true) : brokenTexts index seen cs = [] := by
  fun_induction brokenTexts index seen cs with
  | case1 => rfl
  | case2 index c cs ih =>
    refine ih (fun h => hcs (List.mem_cons_of_mem _ h)) ?_
    split <;> simp
  | case3 index seen c cs ih =>
    simp only [List.mem_cons, not_or] at hcs
    obtain ⟨-, hc, hcs⟩ := hcs
    refine ih hcs ?_
    cases c <;> simp_all
  | case4 => exact absurd rfl hseen
  | case5 index seen cs hfalse ih => exact ih (fun h => hcs (List.mem_cons_of_mem _ h)) (by simp)
  | case6 index seen c cs hslash hquote ih =>
    simp only [List.mem_cons, not_or] at hcs
    refine ih hcs.2 ?_
    cases c <;> simp_all

section Bytes

variable {α : Type} (read : List Char → Except Fault α)

/-- From the bytes of a text a reader gets what it gets from the text. -/
theorem readBytes_encode (s : String) :
    readBytes read (Text.encode s) = (read s.toList).mapError fun f => f.message s.toList := by
  have hsource : ((Text.decodeEach (Text.encode s)).map fun c => c.getD standIn) = s.toList :=
    charsOf_encode s
  simp only [readBytes, hsource]
  rw [Text.decodeEach_encode, brokenTexts_eq_nil (by simp) (by simp)]
  simp only [List.findSome?_nil]
  cases read s.toList <;> rfl

/-- No text that holds a byte of no character is read: half a pair of escapes at the end of
such a text goes unnoticed. -/
def PassesOver (bytes : List UInt8) : Prop :=
  ∀ index ∈ brokenTexts 0 none (Text.decodeEach bytes), readAt? read (charsOf bytes) index = none

theorem passesOver_encode (s : String) : PassesOver read (Text.encode s) := by
  intro index hindex
  rw [Text.decodeEach_encode, brokenTexts_eq_nil (by simp) (by simp)] at hindex
  contradiction

/-- A reader succeeds on bytes if it does on the characters that are read for them, and passes
over the texts with bytes of no character. -/
theorem readBytes_eq_ok_iff {bytes : List UInt8} {a : α} :
    readBytes read bytes = .ok a ↔ PassesOver read bytes ∧ read (charsOf bytes) = .ok a := by
  have hpassed : (brokenTexts 0 none (Text.decodeEach bytes)).findSome?
      (readAt? read (charsOf bytes)) = none ↔ PassesOver read bytes := List.findSome?_eq_none_iff
  have hsource : ((Text.decodeEach bytes).map fun c => c.getD standIn) = charsOf bytes := rfl
  simp only [readBytes, hsource]
  rw [← hpassed]
  cases (brokenTexts 0 none (Text.decodeEach bytes)).findSome? (readAt? read (charsOf bytes)) with
  | some left => simp
  | none => cases read (charsOf bytes) <;> simp

end Bytes

end ActionTree.Json
