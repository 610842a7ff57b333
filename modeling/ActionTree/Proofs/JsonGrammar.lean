import ActionTree.Json.Shape.Reader

/-!
# ActionTree.Proofs.JsonGrammar

What is read is JSON.

1. a form relates the characters from a place on to those behind what stands there, so
   one form follows another where it begins with what the other leaves; the grammar of
   JSON is a form for everything that it names;
2. what a reader takes is of its form (`takes_readValue`), and what it skips is so too
   (`takes_skipValue`).

The forms say nothing of depth or of the range of numbers: readers refuse more than the
grammar does.
-/

namespace ActionTree.Json

/-- What may stand in front of the second characters, if the first ones begin with it. -/
abbrev Form := List Char → List Char → Prop

namespace Grammar

/-! ## The grammar -/

inductive Blanks : Form
  | none {cs : List Char} : Blanks cs cs
  | more {c : Char} {cs rest : List Char} :
      isBlank c = true → Blanks cs rest → Blanks (c :: cs) rest

/-- Something of a form behind blanks. -/
inductive Led (F : Form) : Form
  | mk {cs mid rest : List Char} : Blanks cs mid → F mid rest → Led F cs rest

/-- One digit or more. -/
inductive Digits : Form
  | last {c : Char} {rest : List Char} : c.isDigit = true → Digits (c :: rest) rest
  | more {c : Char} {cs rest : List Char} :
      c.isDigit = true → Digits cs rest → Digits (c :: cs) rest

/-- Digits that do not begin with a zero, or a zero alone. -/
inductive Whole : Form
  | zero {rest : List Char} : Whole ('0' :: rest) rest
  | digits {c : Char} {cs rest : List Char} :
      c ≠ '0' → Digits (c :: cs) rest → Whole (c :: cs) rest

inductive Fraction : Form
  | none {cs : List Char} : Fraction cs cs
  | point {cs rest : List Char} : Digits cs rest → Fraction ('.' :: cs) rest

/-- Digits that may have a sign. -/
inductive Power : Form
  | plain {cs rest : List Char} : Digits cs rest → Power cs rest
  | plus {cs rest : List Char} : Digits cs rest → Power ('+' :: cs) rest
  | minus {cs rest : List Char} : Digits cs rest → Power ('-' :: cs) rest

inductive Exponent : Form
  | none {cs : List Char} : Exponent cs cs
  | small {cs rest : List Char} : Power cs rest → Exponent ('e' :: cs) rest
  | large {cs rest : List Char} : Power cs rest → Exponent ('E' :: cs) rest

/-- What may follow the whole part of a number. -/
inductive Tail : Form
  | mk {cs mid rest : List Char} : Fraction cs mid → Exponent mid rest → Tail cs rest

/-- A number without its sign. -/
inductive Magnitude : Form
  | mk {cs mid rest : List Char} : Whole cs mid → Tail mid rest → Magnitude cs rest

/-- A hexadecimal digit. -/
def isHex (c : Char) : Bool :=
  c.isDigit || ('a' ≤ c && c ≤ 'f') || ('A' ≤ c && c ≤ 'F')

/-- What may stand behind a backslash. -/
inductive Escape : Form
  | short {c : Char} {rest : List Char} :
      c ∈ ['"', '\\', '/', 'b', 'f', 'n', 'r', 't'] → Escape (c :: rest) rest
  | number {a b c d : Char} {rest : List Char} :
      isHex a = true → isHex b = true → isHex c = true → isHex d = true →
      Escape ('u' :: a :: b :: c :: d :: rest) rest

/-- The characters of a text, and its closing quote. -/
inductive Chars : Form
  | close {rest : List Char} : Chars ('"' :: rest) rest
  | plain {c : Char} {cs rest : List Char} :
      0x20 ≤ c.toNat → c ≠ '"' → c ≠ '\\' → Chars cs rest → Chars (c :: cs) rest
  | escape {cs mid rest : List Char} :
      Escape cs mid → Chars mid rest → Chars ('\\' :: cs) rest

/-- What follows a part of a list or a record, up to the bracket that closes it. -/
inductive More (close : Char) (Part : Form) : Form
  | close {cs rest : List Char} : Blanks cs (close :: rest) → More close Part cs rest
  | comma {cs part mid rest : List Char} :
      Blanks cs (',' :: part) → Part part mid → More close Part mid rest →
      More close Part cs rest

/-- What follows the bracket that opens a list or a record, up to the one that closes it. -/
inductive Body (close : Char) (Part : Form) : Form
  | empty {cs rest : List Char} : Blanks cs (close :: rest) → Body close Part cs rest
  | parts {cs mid rest : List Char} :
      Part cs mid → More close Part mid rest → Body close Part cs rest

/-- A key, a colon and a value. -/
inductive Pair (Value : Form) : Form
  | mk {cs key value rest : List Char} :
      Chars cs key → Blanks key (':' :: value) → Led Value value rest →
      Pair Value ('"' :: cs) rest

inductive Datum : Form
  | nullWord {rest : List Char} : Datum ('n' :: 'u' :: 'l' :: 'l' :: rest) rest
  | trueWord {rest : List Char} : Datum ('t' :: 'r' :: 'u' :: 'e' :: rest) rest
  | falseWord {rest : List Char} : Datum ('f' :: 'a' :: 'l' :: 's' :: 'e' :: rest) rest
  | number {cs rest : List Char} : Magnitude cs rest → Datum cs rest
  | negative {cs rest : List Char} : Magnitude cs rest → Datum ('-' :: cs) rest
  | text {cs rest : List Char} : Chars cs rest → Datum ('"' :: cs) rest
  | list {cs rest : List Char} : Body ']' (Led Datum) cs rest → Datum ('[' :: cs) rest
  | record {cs rest : List Char} :
      Body '}' (Led (Pair Datum)) cs rest → Datum ('{' :: cs) rest

/-- One value and nothing else but blanks. -/
def IsJson (cs : List Char) : Prop := ∃ rest, Led Datum cs rest ∧ Blanks rest []

/-- What a reader takes is of a form. -/
def Takes {α : Type} (read : List Char → Reading α) (F : Form) : Prop :=
  ∀ {cs rest : List Char} {a : α}, read cs = .ok (a, rest) → F cs rest

/-! ## Blanks and words -/

theorem blanks_skip (cs : List Char) : Blanks cs (skip cs) := by
  induction cs with
  | nil => exact .none
  | cons c cs ih =>
    rw [skip, List.dropWhile_cons]
    split
    · next hblank => exact .more hblank ih
    · exact .none

theorem blanks_of_skip {cs rest : List Char} (h : skip cs = rest) : Blanks cs rest :=
  h ▸ blanks_skip cs

theorem Blanks.trans {a b c : List Char} (hab : Blanks a b) (hbc : Blanks b c) :
    Blanks a c := by
  induction hab with
  | none => exact hbc
  | more hblank _ ih => exact .more hblank (ih hbc)

theorem eq_append_of_readWord {word cs rest : List Char} (h : readWord word cs = .ok ((), rest)) :
    cs = word ++ rest := by
  fun_induction readWord word cs with
  | case1 cs => cases h; rfl
  | case2 => contradiction
  | case3 w ws cs ih => rw [ih h, List.cons_append]
  | case4 => contradiction

/-! ## Numbers -/

/-- Digits are taken as long as there are any. -/
theorem digits_dropWhile {c : Char} (hc : c.isDigit = true) (cs : List Char) :
    Digits (c :: cs) (cs.dropWhile Char.isDigit) := by
  induction cs generalizing c with
  | nil => exact .last hc
  | cons d cs ih =>
    rw [List.dropWhile_cons]
    split
    · next hd => exact .more hc (ih hd)
    · exact .last hc

theorem whole_dropWhile {c : Char} (hc : c.isDigit = true) (hzero : c ≠ '0') (cs : List Char) :
    Whole (c :: cs) (cs.dropWhile Char.isDigit) :=
  .digits hzero (digits_dropWhile hc cs)

/-- The digits of an exponent that do not fit are digits of it all the same. -/
theorem dropWhile_absorbExponent (n : Nat) (cs : List Char) :
    (absorbExponent n cs).2.dropWhile Char.isDigit = cs.dropWhile Char.isDigit := by
  fun_induction absorbExponent n cs with
  | case1 => rfl
  | case2 n c cs hc m hfits ih => rw [ih, List.dropWhile_cons_of_pos hc]
  | case3 => rfl
  | case4 => rfl

theorem takes_skipDigits : Takes skipDigits Digits := by
  intro cs rest _ h
  rw [skipDigits.eq_def] at h
  split at h
  · next c r =>
    split at h
    · next hc =>
      cases h
      exact digits_dropWhile hc r
    · contradiction
  · contradiction

theorem takes_skipPower : Takes skipPower Power := by
  intro cs rest _ h
  rw [skipPower.eq_def] at h
  split at h
  · exact .plus (takes_skipDigits h)
  · exact .minus (takes_skipDigits h)
  · exact .plain (takes_skipDigits h)

theorem takes_skipTail : Takes skipTail Tail := by
  intro cs rest _ h
  rw [skipTail.eq_def] at h
  split at h
  · next r =>
    split at h
    · contradiction
    · next hdigits => exact .mk (.point (takes_skipDigits hdigits)) (.small (takes_skipPower h))
    · next hdigits => exact .mk (.point (takes_skipDigits hdigits)) (.large (takes_skipPower h))
    · next hdigits =>
      cases h
      exact .mk (.point (takes_skipDigits hdigits)) .none
  · exact .mk .none (.small (takes_skipPower h))
  · exact .mk .none (.large (takes_skipPower h))
  · cases h
    exact .mk .none .none

theorem takes_skipNumber : Takes skipNumber Magnitude := by
  intro cs rest _ h
  rw [skipNumber.eq_def] at h
  split at h
  · split at h
    · split at h
      · contradiction
      · exact .mk .zero (takes_skipTail h)
    · cases h
      exact .mk .zero (.mk .none .none)
  · next c r hzero =>
    split at h
    · next hc => exact .mk (whole_dropWhile hc hzero r) (takes_skipTail h)
    · contradiction
  · contradiction

theorem rest_of_readScaled {negative : Bool} {n : Nat} {power : Int} {cs rest : List Char}
    {x : Number} (h : readScaled negative n power cs = .ok (x, rest)) : rest = cs := by
  rw [readScaled] at h
  split at h
  · cases h
    rfl
  · contradiction

theorem takes_readPower (negative : Bool) (n : Nat) (power : Int) :
    Takes (readPower negative n power) Power := by
  intro cs rest x h
  unfold readPower at h
  split at h
  next down ds hsign =>
  have hdigits : Digits ds rest := by
    split at h
    · contradiction
    · next c r =>
      split at h
      · next hc =>
        -- the digits that did not fit are passed over
        have hrest := dropWhile_absorbExponent 0 (c :: r)
        rw [List.dropWhile_cons_of_pos hc] at hrest
        split at h
        · next e d left habsorbed =>
          rw [habsorbed] at hrest
          split at h
          · next hd =>
            split at h
            · contradiction
            · cases h
              rw [List.dropWhile_cons_of_pos hd] at hrest
              rw [hrest]
              exact digits_dropWhile hc r
          · next hd =>
            rw [List.dropWhile_cons_of_neg hd] at hrest
            rw [rest_of_readScaled h, hrest]
            exact digits_dropWhile hc r
        · next e habsorbed =>
          rw [habsorbed] at hrest
          rw [rest_of_readScaled h, show [] = _ from hrest]
          exact digits_dropWhile hc r
      · contradiction
  split at hsign
  · cases hsign
    exact .plus hdigits
  · cases hsign
    exact .minus hdigits
  · cases hsign
    exact .plain hdigits

theorem takes_readFraction (negative : Bool) (n : Nat) (power : Int) {cs rest : List Char}
    {x : Number} (h : readFraction negative n power cs = .ok (x, rest)) :
    ∃ mid, Digits cs mid ∧ Exponent mid rest := by
  have hdigits : ¬ (cs.takeWhile Char.isDigit).isEmpty = true →
      Digits cs (cs.dropWhile Char.isDigit) := by
    intro hsome
    cases cs with
    | nil => exact absurd rfl hsome
    | cons c cs =>
      rw [List.takeWhile_cons] at hsome
      split at hsome
      · next hc => 
        rw [List.dropWhile_cons_of_pos hc]
        exact digits_dropWhile hc cs
      · exact absurd rfl hsome
  simp only [readFraction] at h
  split at h
  · split at h <;> contradiction
  · next hsome =>
    refine ⟨_, hdigits hsome, ?_⟩
    split at h
    · next r hr => exact hr ▸ .small (takes_readPower _ _ _ h)
    · next r hr => exact hr ▸ .large (takes_readPower _ _ _ h)
    · rw [rest_of_readScaled h]
      exact .none

theorem takes_readTail (negative : Bool) (n power : Nat) :
    Takes (readTail negative n power) Tail := by
  intro cs rest x h
  rw [readTail.eq_def] at h
  split at h
  · obtain ⟨mid, hdigits, hexponent⟩ := takes_readFraction _ _ _ h
    exact .mk (.point hdigits) hexponent
  · exact .mk .none (.small (takes_readPower _ _ _ h))
  · exact .mk .none (.large (takes_readPower _ _ _ h))
  · split at h
    · cases h
      exact .mk .none .none
    · rw [rest_of_readScaled h]
      exact .mk .none .none

theorem takes_readNumber (negative : Bool) : Takes (readNumber negative) Magnitude := by
  intro cs rest x h
  rw [readNumber.eq_def] at h
  split at h
  · contradiction
  · split at h
    · split at h
      · contradiction
      · exact .mk .zero (takes_readTail _ _ _ h)
    · exact .mk .zero (takes_readTail _ _ _ h)
  · next c r hzero =>
    split at h
    · next hc =>
      rw [List.dropWhile_cons_of_pos hc] at h
      exact .mk (whole_dropWhile hc hzero r) (takes_readTail _ _ _ h)
    · contradiction

/-! ## Texts -/

theorem isHex_of_hexValue? {c : Char} {n : Nat} (h : hexValue? c = some n) : isHex c = true := by
  rw [hexValue?] at h
  simp only [isHex, Bool.or_eq_true]
  split at h
  · next hc => exact .inl (.inl hc)
  split at h
  · next hc => exact .inl (.inr hc)
  split at h
  · next hc => exact .inr hc
  · contradiction

/-- Four hexadecimal digits are an escape behind its letter. -/
theorem escape_of_readHex {cs rest : List Char} {n : Nat} (h : readHex cs = .ok (n, rest)) :
    Escape ('u' :: cs) rest := by
  rw [readHex.eq_def] at h
  split at h
  · split at h
    · next ha hb hc hd =>
      cases h
      exact .number (isHex_of_hexValue? ha) (isHex_of_hexValue? hb) (isHex_of_hexValue? hc)
        (isHex_of_hexValue? hd)
    · contradiction
  · split at h <;> contradiction

/-- The second half of a pair is an escape of its own. -/
theorem escape_of_readLowHalf {high : Nat} {cs rest : List Char} {c : Char}
    (h : readLowHalf high cs = .ok (c, rest)) : ∃ low, cs = '\\' :: low ∧ Escape low rest := by
  rw [readLowHalf.eq_def] at h
  split at h
  · contradiction
  · contradiction
  · next r =>
    split at h
    · contradiction
    · next low r' hhex =>
      split at h
      · simp only [Except.ok.injEq, Prod.mk.injEq] at h
        obtain ⟨-, rfl⟩ := h
        exact ⟨_, rfl, escape_of_readHex hhex⟩
      · contradiction
  · contradiction
  · contradiction

/-- An escape, or a pair of them, in front of the rest of a text. -/
theorem chars_of_readCodeUnit {cs mid rest : List Char} {c : Char}
    (h : readCodeUnit cs = .ok (c, mid)) (hrest : Chars mid rest) :
    Chars ('\\' :: 'u' :: cs) rest := by
  rw [readCodeUnit] at h
  split at h
  · contradiction
  · next n r hhex =>
    have hescape := escape_of_readHex hhex
    split at h
    · contradiction
    split at h
    · obtain ⟨low, rfl, hlow⟩ := escape_of_readLowHalf h
      exact .escape hescape (.escape hlow hrest)
    · cases h
      exact .escape hescape hrest

theorem chars_of_readEscape {cs mid rest : List Char} {c : Char}
    (h : readEscape cs = .ok (c, mid)) (hrest : Chars mid rest) : Chars ('\\' :: cs) rest := by
  fun_cases readEscape cs with
  | case1 => contradiction
  | case10 r => exact chars_of_readCodeUnit h hrest
  | case11 =>
    rw [readEscape] at h
    all_goals first | assumption | contradiction
  | _ =>
    cases h
    exact .escape (.short (by decide)) hrest

theorem takes_readChars (fuel : Nat) : Takes (readChars fuel) Chars := by
  intro cs rest s h
  fun_induction readChars fuel cs generalizing rest s with
  | case3 fuel r =>
    cases h
    exact .close
  | case6 fuel r c mid hescape s tail hmore ih =>
    cases h
    exact chars_of_readEscape hescape (ih hmore)
  | case9 fuel c r hquote hslash hplain s tail hmore ih =>
    cases h
    exact .plain (Nat.le_of_not_lt hplain) hquote hslash (ih hmore)
  | _ => contradiction

theorem takes_readText : Takes readText Chars := by
  intro cs rest s h
  rw [readText] at h
  split at h
  · contradiction
  · next hchars =>
    cases h
    exact takes_readChars _ hchars

theorem takes_skipText (fuel : Nat) : Takes (skipText fuel) Chars := by
  intro cs rest s h
  fun_induction skipText fuel cs generalizing rest with
  | case4 fuel r =>
    cases h
    exact .close
  | case6 fuel r n mid hhex ih => exact .escape (escape_of_readHex hhex) (ih h)
  | case7 fuel c r hletter hshort ih =>
    exact .escape (.short (List.contains_iff_mem.mp hshort)) (ih h)
  | case10 fuel c r hend hquote hletter hpair hplain ih =>
    have hslash : c ≠ '\\' := by
      cases r with
      | nil => exact fun hc => hend hc rfl
      | cons d r => exact fun hc => hpair d r hc rfl
    exact .plain (Nat.le_of_not_lt hplain) hquote hslash (ih h)
  | _ => contradiction

/-! ## Lists and records -/

theorem Led.behind {F : Form} {a b c : List Char} (hab : Blanks a b) (hbc : Led F b c) :
    Led F a c := by
  obtain ⟨hblanks, hF⟩ := hbc
  exact .mk (hab.trans hblanks) hF

section Parts

variable {α : Type} {F : Form}

theorem takes_readMoreItems {item : List Char → Reading α} (hitem : Takes item (Led F))
    (fuel : Nat) : Takes (readMoreItems item fuel) (More ']' (Led F)) := by
  intro cs rest vs h
  fun_induction readMoreItems item fuel cs generalizing rest vs with
  | case3 fuel cs r hclose =>
    cases h
    exact .close (blanks_of_skip hclose)
  | case8 fuel cs r hcomma v mid vs tail hmore _ _ hread ih =>
    cases h
    exact .comma (blanks_of_skip hcomma) (.behind (blanks_skip r) (hitem hread)) (ih hmore)
  | _ => contradiction

theorem takes_readItems {item : List Char → Reading α} (hitem : Takes item (Led F)) :
    Takes (readItems item) (Body ']' (Led F)) := by
  intro cs rest vs h
  unfold readItems at h
  split at h
  · contradiction
  · next hclose =>
    cases h
    exact .empty (blanks_of_skip hclose)
  · split at h
    · contradiction
    · next hread =>
      split at h
      · contradiction
      · next hmore =>
        cases h
        exact .parts (.behind (blanks_skip cs) (hitem hread)) (takes_readMoreItems hitem _ hmore)

theorem blanks_of_readColon {cs rest : List Char} (h : readColon cs = .ok ((), rest)) :
    Blanks cs (':' :: rest) := by
  rw [readColon.eq_def] at h
  split at h
  · contradiction
  · next hcolon =>
    cases h
    exact blanks_of_skip hcolon
  · contradiction

/-- An entry is read behind the quote that opens its key. -/
theorem pair_of_readEntry {value : List Char → Reading α} (hvalue : Takes value (Led F))
    {cs rest : List Char} {e : String × α} (h : readEntry value cs = .ok (e, rest)) :
    Pair F ('"' :: cs) rest := by
  rw [readEntry] at h
  split at h
  · contradiction
  · next hkey =>
    split at h
    · contradiction
    · next hcolon =>
      split at h
      · contradiction
      · next hread =>
        cases h
        exact .mk (takes_readText hkey) (blanks_of_readColon hcolon) (hvalue hread)

theorem takes_readMoreEntries {value : List Char → Reading α} (hvalue : Takes value (Led F))
    (fuel : Nat) : Takes (readMoreEntries value fuel) (More '}' (Led (Pair F))) := by
  intro cs rest es h
  fun_induction readMoreEntries value fuel cs generalizing rest es with
  | case3 fuel cs r hclose =>
    cases h
    exact .close (blanks_of_skip hclose)
  | case7 fuel cs r hcomma key hquote e mid hentry es tail hmore ih =>
    cases h
    exact .comma (blanks_of_skip hcomma)
      (.mk (blanks_of_skip hquote) (pair_of_readEntry hvalue hentry)) (ih hmore)
  | _ => contradiction

theorem takes_readEntries {value : List Char → Reading α} (hvalue : Takes value (Led F)) :
    Takes (readEntries value) (Body '}' (Led (Pair F))) := by
  intro cs rest es h
  unfold readEntries at h
  split at h
  · contradiction
  · next hclose =>
    cases h
    exact .empty (blanks_of_skip hclose)
  · next hquote =>
    split at h
    · contradiction
    · next hentry =>
      split at h
      · contradiction
      · next hmore =>
        cases h
        exact .parts (.mk (blanks_of_skip hquote) (pair_of_readEntry hvalue hentry))
          (takes_readMoreEntries hvalue _ hmore)
  · contradiction

theorem takes_skipMoreParts (b : Bracket) {part : List Char → Reading Unit}
    (hpart : Takes part (Led F)) (fuel : Nat) :
    Takes (skipMoreParts b part fuel) (More b.close (Led F)) := by
  intro cs rest _ h
  fun_induction skipMoreParts b part fuel cs generalizing rest with
  | case4 fuel cs r _ mid hread hcomma ih =>
    exact .comma (blanks_of_skip hcomma) (hpart hread) (ih h)
  | case5 fuel cs r hclose =>
    cases h
    exact .close (blanks_of_skip hclose)
  | _ => contradiction

theorem takes_skipParts (b : Bracket) {part : List Char → Reading Unit}
    (hpart : Takes part (Led F)) : Takes (skipParts b part) (Body b.close (Led F)) := by
  intro cs rest _ h
  unfold skipParts at h
  split at h
  · contradiction
  · next hskip =>
    split at h
    · next hclose =>
      cases h
      exact .empty (hclose ▸ blanks_of_skip hskip)
    · split at h
      · contradiction
      · next hread =>
        exact .parts (.behind (blanks_of_skip hskip) (hpart hread))
          (takes_skipMoreParts b hpart _ h)

theorem takes_skipEntry {value : List Char → Reading Unit} (hvalue : Takes value (Led F)) :
    Takes (skipEntry value) (Led (Pair F)) := by
  intro cs rest _ h
  unfold skipEntry at h
  split at h
  · contradiction
  · next hquote =>
    split at h
    · contradiction
    · next hkey =>
      split at h
      · contradiction
      · next hcolon =>
        exact .mk (blanks_of_skip hquote)
          (.mk (takes_skipText _ hkey) (blanks_of_readColon hcolon) (hvalue h))
  · contradiction

end Parts

/-! ## Values -/

theorem takes_skipValue (fuel : Nat) : Takes (skipValue fuel) (Led Datum) := by
  induction fuel with
  | zero =>
    intro cs rest _ h
    contradiction
  | succ fuel ih =>
    intro cs rest _ h
    refine .mk (blanks_skip cs) ?_
    rw [skipValue] at h
    split at h
    · contradiction
    · next hskip =>
      rw [hskip, eq_append_of_readWord h]
      exact .nullWord
    · next hskip =>
      rw [hskip, eq_append_of_readWord h]
      exact .trueWord
    · next hskip =>
      rw [hskip, eq_append_of_readWord h]
      exact .falseWord
    · next hskip => exact hskip ▸ .negative (takes_skipNumber h)
    · next hskip => exact hskip ▸ .text (takes_skipText _ h)
    · next hskip => exact hskip ▸ .list (takes_skipParts listBracket ih h)
    · next hskip => exact hskip ▸ .record (takes_skipParts recordBracket (takes_skipEntry ih) h)
    · next hskip =>
      split at h
      · exact hskip ▸ .number (takes_skipNumber h)
      · contradiction

theorem takes_readValue (depth : Nat) : Takes (readValue depth) (Led Datum) := by
  induction depth using Nat.strongRecOn with
  | ind depth ih =>
    intro cs rest v h
    refine .mk (blanks_skip cs) ?_
    revert h
    fun_cases readValue depth cs with
    | case3 depth cs r hskip _ mid hword =>
      intro h
      cases h
      rw [hskip, eq_append_of_readWord hword]
      exact .nullWord
    | case5 depth cs r hskip _ mid hword =>
      intro h
      cases h
      rw [hskip, eq_append_of_readWord hword]
      exact .trueWord
    | case7 depth cs r hskip _ mid hword =>
      intro h
      cases h
      rw [hskip, eq_append_of_readWord hword]
      exact .falseWord
    | case9 depth cs r hskip n mid hnumber =>
      intro h
      cases h
      exact hskip ▸ .negative (takes_readNumber _ hnumber)
    | case11 depth cs r hskip s mid htext =>
      intro h
      cases h
      exact hskip ▸ .text (takes_readText htext)
    | case14 cs r hskip depth vs mid hitems =>
      intro h
      cases h
      exact hskip ▸ .list (takes_readItems (ih depth (Nat.lt_succ_self depth)) hitems)
    | case17 cs r hskip depth es mid hentries =>
      intro h
      cases h
      exact hskip ▸ .record (takes_readEntries (ih depth (Nat.lt_succ_self depth)) hentries)
    | case19 depth cs c r _ _ _ _ _ _ _ hskip hdigit n mid hnumber =>
      intro h
      cases h
      exact hskip ▸ .number (takes_readNumber _ hnumber)
    | _ =>
      intro h
      contradiction

end Grammar

end ActionTree.Json
