import ActionTree.Expr.Meaning
import ActionTree.Proofs.Comparison
import ActionTree.Proofs.Rounding

/-!
# ActionTree.Proofs.IntegerOperands

Comparisons of integers in a condition.

1. an operand that is an integer is a reference to a field that holds one, or a
   numeral (`IntegerWord`); both are cut out of the condition as one word;
2. a numeral is read as the nearest double, and an integer in a field is made
   one when it is compared, so both stand for the nearest double of the integer;
3. a comparison of two such words is thus the comparison of the two nearest
   doubles, and these are integers again.

Two integers that share their nearest double compare as equal.  No others are
confused, and the order is never turned round.
-/

namespace ActionTree.Expr

open Text

/-! ## What an operator says of two integers -/

/-- Whether an operator holds of two integers. -/
def Comparison.relates : Comparison → Int → Int → Bool
  | eq, m, n => m = n
  | ne, m, n => m ≠ n
  | lt, m, n => m < n
  | le, m, n => m ≤ n
  | gt, m, n => m > n
  | ge, m, n => m ≥ n

theorem holds_orderInt (op : Comparison) (m n : Int) :
    op.holds (some (orderInt m n)) = op.relates m n := by
  unfold orderInt
  rcases Int.lt_trichotomy m n with h | h | h
  · cases op <;> simp [Comparison.holds, Comparison.relates, bne, h] <;> omega
  · cases op <;> simp [Comparison.holds, Comparison.relates, h]
  · cases op <;> simp [Comparison.holds, Comparison.relates, bne, Int.not_lt.2 (Int.le_of_lt h),
      Int.ne_of_gt h] <;> omega

/-! ## Numerals -/

/-- A numeral is a sign or none, and digits. -/
theorem eq_of_readIntChars {word : List Char} {n : Int} (h : readIntChars word = some n) :
    ∃ sign digits : List Char, (sign = [] ∨ sign = ['+'] ∨ sign = ['-']) ∧ word = sign ++ digits ∧
      isDigits digits = true ∧
      n = if sign = ['-'] then -(numberOf digits : Int) else numberOf digits := by
  unfold readIntChars at h
  split at h
  · rename_i ds
    split at h
    · rename_i hds
      exact ⟨['-'], ds, by simp, rfl, hds, by simpa using h.symm⟩
    · simp at h
  · simp only [readNatChars, Option.map_eq_some_iff] at h
    obtain ⟨k, hk, rfl⟩ := h
    split at hk
    · rename_i ds _
      split at hk
      · rename_i hds
        exact ⟨['+'], ds, by simp, rfl, hds, by simpa using hk.symm⟩
      · simp at hk
    · split at hk
      · rename_i hds
        exact ⟨[], word, by simp, rfl, hds, by simpa using hk.symm⟩
      · simp at hk

theorem toLower_of_isDigit {d : Char} (h : d.isDigit = true) : d.toLower = d := by
  simp only [Char.isDigit, Bool.and_eq_true, decide_eq_true_eq, ge_iff_le] at h
  unfold Char.toLower
  split
  · rename_i hupper
    simp only [UInt32.le_iff_toNat_le] at h hupper
    have hdigit : d.val.toNat ≤ 57 := h.2
    have hletter : 65 ≤ d.val.toNat := hupper.1
    omega
  · rfl

theorem exists_digit_of_isDigits {ds : List Char} (h : isDigits ds = true) :
    ∃ d ∈ ds, d.isDigit = true := by
  simp only [isDigits, Bool.and_eq_true, Bool.not_eq_true', List.isEmpty_eq_false_iff,
    List.all_eq_true] at h
  obtain ⟨d, hd⟩ := List.exists_mem_of_ne_nil ds h.1
  exact ⟨d, hd, h.2 d hd⟩

/-- What has a digit in it has it in lower case as well. -/
theorem lower_ne_of_digit {word name : List Char} {d : Char} (hd : d ∈ word)
    (hdigit : d.isDigit = true) (hname : name.all (fun c => !c.isDigit) = true) :
    word.map Char.toLower ≠ name := by
  rintro rfl
  have hmem : d ∈ word.map Char.toLower :=
    List.mem_map.2 ⟨d, hd, toLower_of_isDigit hdigit⟩
  simpa [hdigit] using List.all_eq_true.1 hname d hmem

theorem readDecimal_digits {ds : List Char} (hds : isDigits ds = true) :
    readDecimal ds = some ⟨numberOf ds, 0⟩ := by
  simp only [isDigits, Bool.and_eq_true, Bool.not_eq_true', List.isEmpty_eq_false_iff,
    List.all_eq_true] at hds
  obtain ⟨hne, hall⟩ := hds
  have htake : ds.takeWhile Char.isDigit = ds := List.takeWhile_eq_self_iff.2 hall
  have hdrop : ds.dropWhile Char.isDigit = [] := List.dropWhile_eq_nil_iff.2 hall
  simp [readDecimal, htake, hdrop, hne, readExponent]

/-- Digits are read as the nearest double of their number, unless that is so
large that its magnitude alone makes it infinite. -/
theorem readUnsigned_digits (w : Width) (negative : Bool) {ds : List Char}
    (hds : isDigits ds = true) (hsize : (digitsOf (numberOf ds)).length ≤ 400) :
    readUnsigned w negative ds = some (w.round negative (numberOf ds) 1) := by
  obtain ⟨d, hd, hdigit⟩ := exists_digit_of_isDigits hds
  have hvalue : Decimal.toWidth w negative ⟨numberOf ds, 0⟩ = w.round negative (numberOf ds) 1 := by
    rcases Nat.eq_zero_or_pos (numberOf ds) with h0 | hpos
    · simp [Decimal.toWidth, Width.round, h0]
    · simp only [Decimal.toWidth, if_neg (Nat.ne_of_gt hpos)]
      rw [if_neg (by omega), if_neg (by omega)]
      simp [pow10]
  rw [readUnsigned, if_neg (lower_ne_of_digit hd hdigit (by decide)),
    if_neg (by simp [lower_ne_of_digit hd hdigit]), readDecimal_digits hds, Option.map_some, hvalue]

/-- The integers of the data model: those of 64 bits, with a sign or without. -/
def IsMachineInteger (n : Int) : Prop := leastInt64 ≤ n ∧ n < 2 ^ 64

theorem IsMachineInteger.natAbs_lt {n : Int} (h : IsMachineInteger n) : n.natAbs < 2 ^ 64 := by
  obtain ⟨hleast, hlt⟩ := h
  simp only [leastInt64] at hleast
  omega

theorem log2_lt_of_lt {n : Nat} (h : n < 2 ^ 64) : n.log2 < 1023 := by
  rcases Nat.eq_zero_or_pos n with rfl | hn
  · decide
  · have := (Nat.log2_lt (Nat.ne_of_gt hn)).2 h
    omega

/-- What is read of a numeral are its digits, behind its sign. -/
theorem readWidth_sign (w : Width) {word : List Char} {n : Int} (h : readIntChars word = some n) :
    ∃ (negative : Bool) (ds : List Char), isDigits ds = true ∧ numberOf ds = n.natAbs ∧
      readWidth w word = readUnsigned w negative ds ∧
      n = if negative then -(n.natAbs : Int) else n.natAbs := by
  obtain ⟨sign, ds, hsign, rfl, hds, hvalue⟩ := eq_of_readIntChars h
  have habs : numberOf ds = n.natAbs := by
    rw [hvalue]
    split <;> omega
  rw [habs] at hvalue
  rcases hsign with rfl | rfl | rfl
  · refine ⟨false, ds, hds, habs, ?_, by simpa using hvalue⟩
    rw [List.nil_append]
    unfold readWidth
    split
    · simp [isDigits] at hds
    · simp [isDigits] at hds
    · rfl
  · exact ⟨false, ds, hds, habs, rfl, by simpa using hvalue⟩
  · exact ⟨true, ds, hds, habs, rfl, by simpa using hvalue⟩

/-- A numeral is read as the double nearest to its integer. -/
theorem readWidth_numeral {word : List Char} {n : Int} (h : readIntChars word = some n)
    (hn : IsMachineInteger n) :
    ∃ negative : Bool, readWidth .wide word = some (Double.ofRatio negative n.natAbs 1) ∧
      n = if negative then -(n.natAbs : Int) else n.natAbs := by
  obtain ⟨negative, ds, hds, hnumber, hread, hvalue⟩ := readWidth_sign .wide h
  have hsize : (digitsOf (numberOf ds)).length ≤ 400 := by
    have hlt : numberOf ds < 10 ^ 20 := by
      have := hn.natAbs_lt
      omega
    exact Nat.le_trans ((Nat.length_toDigits_le_iff (by decide) (by decide)).2 hlt) (by decide)
  rw [readUnsigned_digits .wide negative hds hsize, hnumber] at hread
  exact ⟨negative, hread, hvalue⟩

/-- Making a whole double a value of the data model does not change what it
compares as. -/
theorem toNumber?_ofDouble {x : Finite} {k : Nat} (hx : x.IsNat k) (hk : Representable k) :
    ∃ d, (Value.ofDouble (.finite x)).toNumber? = some d ∧
      d.Is (if x.negative then -(k : Int) else k) := by
  have htruncate := hx.truncate
  generalize ht : (if x.negative then -(k : Int) else k) = t at htruncate
  have hrep : Representable t.natAbs := by
    have : t.natAbs = k := by
      rw [← ht]
      split <;> omega
    rwa [this]
  simp only [Value.ofDouble, hx.isWhole, htruncate, Bool.true_and, Bool.and_eq_true,
    decide_eq_true_eq]
  split
  · rename_i hrange
    obtain ⟨hleast, hgreatest⟩ := hrange
    refine ⟨Double.ofInt (min greatestInt64 t), rfl, ?_⟩
    have hnear : nearestDouble (min greatestInt64 t) = t := by
      rcases Int.lt_or_le greatestInt64 t with hlt | hle
      · -- the upper end is held to the greatest integer, and that is rounded back up
        have : t = greatestInt64 + 1 := by omega
        rw [this]
        decide
      · rw [Int.min_eq_right hle, nearestDouble_of_representable hrep]
    have hlog : (min greatestInt64 t).natAbs.log2 < 1023 := by
      refine log2_lt_of_lt ?_
      simp only [leastInt64, greatestInt64] at hleast hgreatest ⊢
      omega
    have his := Double.ofInt_is hlog
    rwa [hnear] at his
  · refine ⟨.finite x, rfl, ?_⟩
    rw [← ht]
    exact Double.is_of_isNat hx

/-! ## Words -/

/-- A word of a condition that is an integer: a reference to a field that holds
it, or a numeral. -/
inductive IntegerWord (c : Context) : List Char → Int → Prop where
  | field {name : List Char} {n : Int} (hname : isName name = true)
      (hvalue : c.resolve (String.ofList name) = some (.int n)) :
      IntegerWord c ('{' :: (name ++ ['}'])) n
  | numeral {word : List Char} {n : Int} (hnumeral : readIntChars word = some n) :
      IntegerWord c word n

theorem loneReference?_of_isName {name : List Char} (h : isName name = true) :
    loneReference? ('{' :: (name ++ ['}'])) = some name := by
  simp [loneReference?, stripEndChars, stripStartChars, h]

/-- A word with a digit in it is no operator and no name of a constant. -/
theorem plainWord_of_digit {α : Type} (r : Reading α) {word : List Char} {d : Char} (hd : d ∈ word)
    (hdigit : d.isDigit = true) : r.plainWord word = .operand (r.constant (wordConstant word)) := by
  have hne : ∀ name : String, name.toList.all (fun c => !c.isDigit) = true →
      String.ofList (word.map Char.toLower) ≠ name := by
    rintro name hname rfl
    exact lower_ne_of_digit hd hdigit hname (by simp)
  simp only [Reading.plainWord, if_neg (hne "and" (by decide)), if_neg (hne "or" (by decide)),
    if_neg (hne "not" (by decide)), if_neg (hne "true" (by decide)),
    if_neg (hne "false" (by decide)), if_neg (hne "null" (by decide))]

theorem plainWord_numeral {α : Type} (r : Reading α) {word : List Char} {n : Int}
    (h : readIntChars word = some n) :
    r.plainWord word = .operand (r.constant (wordConstant word)) := by
  obtain ⟨sign, ds, -, rfl, hds, -⟩ := eq_of_readIntChars h
  obtain ⟨d, hd, hdigit⟩ := exists_digit_of_isDigits hds
  exact plainWord_of_digit r (List.mem_append_right sign hd) hdigit

theorem mem_of_readIntChars {word : List Char} {n : Int} (h : readIntChars word = some n) {d : Char}
    (hd : d ∈ word) : d = '+' ∨ d = '-' ∨ d.isDigit = true := by
  obtain ⟨sign, ds, hsign, rfl, hds, -⟩ := eq_of_readIntChars h
  simp only [isDigits, Bool.and_eq_true, List.all_eq_true] at hds
  rcases List.mem_append.1 hd with hd | hd
  · rcases hsign with rfl | rfl | rfl <;> simp_all
  · exact .inr (.inr (hds.2 d hd))

/-- An integer in a condition compares as its nearest double, wherever it comes
from. -/
theorem IntegerWord.operand {c : Context} {word : List Char} {n : Int} (hw : IntegerWord c word n)
    (hn : IsMachineInteger n) :
    ∃ v d, (inScope c).word word = .operand v ∧ v.toNumber? = some d ∧ d.Is (nearestDouble n) := by
  cases hw with
  | @field name _ hname hvalue =>
    refine ⟨.int n, Double.ofInt n, ?_, rfl, Double.ofInt_is (log2_lt_of_lt hn.natAbs_lt)⟩
    simp [Reading.word, Reading.ofReferences, loneReference?_of_isName hname, inScope, hvalue]
  | numeral hnumeral =>
    obtain ⟨negative, hread, hsign⟩ := readWidth_numeral hnumeral hn
    obtain ⟨x, hx, hneg, hwhole⟩ := ofRatio_whole negative (log2_lt_of_lt hn.natAbs_lt)
    obtain ⟨d, hd, his⟩ := toNumber?_ofDouble hwhole (representable_nearDouble _)
    refine ⟨wordConstant word, d, ?_, ?_, ?_⟩
    · have hbrace : '{' ∉ word := fun hmem => by
        rcases mem_of_readIntChars hnumeral hmem with h | h | h <;> exact absurd h (by decide)
      rw [Reading.word, if_neg (by simpa using hbrace), plainWord_numeral _ hnumeral]
      rfl
    · rw [wordConstant, hread, hx]
      exact hd
    · have hnear : nearestDouble n =
          if negative then -(nearDouble n.natAbs : Int) else nearDouble n.natAbs := by
        generalize n.natAbs = k at hsign
        subst hsign
        cases negative <;> simp [nearestDouble_neg, nearestDouble_ofNat]
      rw [hneg, ← hnear] at his
      exact his

/-! ## Comparisons in a condition -/

/-- A character that ends a word, by its kind. -/
theorem isDelimiter_eq_false {p : Char → Bool} {d : Char} (h : p d = true)
    (hp : [' ', '\t', '\n', '\x0c', '\r', '(', ')', '!', '=', '<', '>', '"', '\'', '&', '|'].all
      (fun e => !p e) = true) : isDelimiter d = false := by
  cases hd : isDelimiter d with
  | false => rfl
  | true =>
    have hmem : d ∈ [' ', '\t', '\n', '\x0c', '\r', '(', ')', '!', '=', '<', '>', '"', '\'',
        '&', '|'] := by
      simpa [isDelimiter, isBlank, or_assoc] using hd
    simpa [h] using List.all_eq_true.1 hp d hmem

/-- A reference has no delimiters in it. -/
theorem undelimited_reference {name : List Char} (hname : isName name = true) {d : Char}
    (hd : d ∈ '{' :: (name ++ ['}'])) : isDelimiter d = false := by
  rcases List.mem_cons.1 hd with rfl | hd
  · decide
  · rcases List.mem_append.1 hd with hd | hd
    · exact isDelimiter_eq_false (isNameChar_of_isName hname hd) (by decide)
    · rw [List.mem_singleton.1 hd]
      decide

/-- The words of integers have no delimiters in them. -/
theorem IntegerWord.undelimited {c : Context} {word : List Char} {n : Int}
    (hw : IntegerWord c word n) : word ≠ [] ∧ ∀ d ∈ word, isDelimiter d = false := by
  cases hw with
  | @field name _ hname _ =>
    exact ⟨List.cons_ne_nil _ _, fun d hd => undelimited_reference hname hd⟩
  | numeral hnumeral =>
    refine ⟨by rintro rfl; simp [readIntChars, readNatChars, isDigits] at hnumeral, ?_⟩
    intro d hd
    rcases mem_of_readIntChars hnumeral hd with rfl | rfl | hdigit
    · decide
    · decide
    · exact isDelimiter_eq_false hdigit (by decide)

section Tokens

variable {α : Type} (r : Reading α)

theorem tokensOf_blanks {blanks rest : List Char} (h : ∀ d ∈ blanks, isBlank d = true) :
    r.tokensOf (blanks ++ rest) = r.tokensOf rest := by
  induction blanks with
  | nil => rfl
  | cons d ds ih =>
    rw [List.cons_append, Reading.tokensOf.eq_def]
    dsimp only
    rw [if_pos (h d (by simp)), ih fun e he => h e (List.mem_cons_of_mem _ he)]

/-- A word goes up to the next delimiter. -/
theorem tokensOf_word {word rest : List Char} (hne : word ≠ [])
    (hword : ∀ d ∈ word, isDelimiter d = false) (hrest : ∀ d ∈ rest.head?, isDelimiter d = true) :
    r.tokensOf (word ++ rest) = (r.tokensOf rest).map (r.word word :: ·) := by
  obtain ⟨d, ds, rfl⟩ := List.exists_cons_of_ne_nil hne
  have hd := hword d (by simp)
  have hds : ∀ e ∈ ds, (!isDelimiter e) = true := fun e he => by simp [hword e (by simp [he])]
  have htake : (ds ++ rest).takeWhile (fun e => !isDelimiter e) = ds := by
    rw [List.takeWhile_append_of_pos hds]
    cases rest with
    | nil => simp
    | cons e es => simp [hrest e (by simp)]
  have hdrop : (ds ++ rest).dropWhile (fun e => !isDelimiter e) = rest := by
    rw [List.dropWhile_append_of_pos hds]
    cases rest with
    | nil => simp
    | cons e es => simp [hrest e (by simp)]
  simp only [isDelimiter, Bool.or_eq_false_iff, decide_eq_false_iff_not] at hd
  rw [List.cons_append, Reading.tokensOf.eq_def]
  simp [hd, htake, hdrop]

theorem tokensOf_last {word : List Char} (hne : word ≠ [])
    (hword : ∀ d ∈ word, isDelimiter d = false) : r.tokensOf word = .ok [r.word word] := by
  have hend : ∀ d ∈ ([] : List Char).head?, isDelimiter d = true := by simp
  have htokens := tokensOf_word r hne hword hend
  rw [List.append_nil, Reading.tokensOf] at htokens
  exact htokens

/-- How an operator is written. -/
def Comparison.spellings : Comparison → List (List Char)
  | .eq => [['=', '='], ['=']]
  | .ne => [['!', '=']]
  | .lt => [['<']]
  | .le => [['<', '=']]
  | .gt => [['>']]
  | .ge => [['>', '=']]

theorem tokensOf_comparison {op : Comparison} {spelled rest : List Char}
    (hop : spelled ∈ op.spellings) (hrest : rest.head? ≠ some '=') :
    r.tokensOf (spelled ++ rest) = (r.tokensOf rest).map (.compare op :: ·) := by
  have hne : ∀ rs, rest ≠ '=' :: rs := by
    rintro rs rfl
    exact hrest rfl
  cases op <;> simp only [Comparison.spellings, List.mem_cons, List.not_mem_nil, or_false] at hop
  case eq =>
    rcases hop with rfl | rfl <;> rw [List.cons_append, Reading.tokensOf.eq_def]
    · rfl
    · simp [isBlank]
  all_goals
    rw [hop, List.cons_append, Reading.tokensOf.eq_def]
    simp [isBlank]

end Tokens

/-- The text of a condition that compares two words: blanks may stand around the
operator. -/
def Compares (a : List Char) (op : Comparison) (b : List Char) (source : String) : Prop :=
  ∃ left spelled right : List Char, (∀ d ∈ left, isBlank d = true) ∧ spelled ∈ op.spellings ∧
    (∀ d ∈ right, isBlank d = true) ∧
    source = String.ofList (a ++ (left ++ (spelled ++ (right ++ b))))

theorem isDelimiter_of_isBlank {d : Char} (h : isBlank d = true) : isDelimiter d = true := by
  simp [isDelimiter, h]

theorem isDelimiter_head {op : Comparison} {left spelled rest : List Char}
    (hleft : ∀ d ∈ left, isBlank d = true) (hop : spelled ∈ op.spellings) :
    ∀ d ∈ (left ++ (spelled ++ rest)).head?, isDelimiter d = true := by
  cases left with
  | nil =>
    cases op <;> simp only [Comparison.spellings, List.mem_cons, List.not_mem_nil, or_false] at hop
    case eq => rcases hop with rfl | rfl <;> simp [isDelimiter]
    all_goals simp [hop, isDelimiter]
  | cons d ds => simpa using isDelimiter_of_isBlank (hleft d (by simp))

theorem tokensOf_compares {α : Type} (r : Reading α) {a b : List Char} {op : Comparison}
    {source : String} (ha : a ≠ [] ∧ ∀ d ∈ a, isDelimiter d = false)
    (hb : b ≠ [] ∧ ∀ d ∈ b, isDelimiter d = false) (h : Compares a op b source) :
    r.tokens source = .ok [r.word a, .compare op, r.word b] := by
  obtain ⟨left, spelled, right, hleft, hop, hright, rfl⟩ := h
  have hequal : (right ++ b).head? ≠ some '=' := by
    intro heq
    cases right with
    | nil =>
      have hmem : '=' ∈ b := List.mem_of_mem_head? (by simpa using heq)
      exact absurd (hb.2 _ hmem) (by decide)
    | cons d ds =>
      have hd : d = '=' := by simpa using heq
      exact absurd (hright d (by simp)) (by rw [hd]; decide)
  rw [Reading.tokens, String.toList_ofList,
    tokensOf_word r ha.1 ha.2 (isDelimiter_head hleft hop), tokensOf_blanks r hleft,
    tokensOf_comparison r hop hequal, tokensOf_blanks r hright, tokensOf_last r hb.1 hb.2]
  rfl

theorem readTokens_compare {α : Type} (r : Reading α) (op : Comparison) (a b : α) :
    r.readTokens [.operand a, .compare op, .operand b] = .ok (some (r.compare op a b)) := rfl

variable {c : Context} {a b : List Char} {m n : Int}

/-- Two integers in a condition compare as their nearest doubles. -/
theorem value_compares (ha : IntegerWord c a m) (hb : IntegerWord c b n) (hm : IsMachineInteger m)
    (hn : IsMachineInteger n) {op : Comparison} {source : String} (h : Compares a op b source) :
    value source c = .ok (.boolean (op.relates (nearestDouble m) (nearestDouble n))) := by
  obtain ⟨v, d, hv, hvd, hd⟩ := ha.operand hm
  obtain ⟨w, e, hw, hwe, he⟩ := hb.operand hn
  have hcompare : compareValues op v w = op.relates (nearestDouble m) (nearestDouble n) := by
    rw [compareValues, order?_of_numbers hvd hwe, hd.compare? he, holds_orderInt]
  simp only [value, Reading.read, tokensOf_compares (inScope c) ha.undelimited hb.undelimited h, hv,
    hw, readTokens_compare]
  simp [inScope, hcompare, Except.map]

theorem exists_compares (a : List Char) (op : Comparison) (b : List Char) :
    ∃ source, Compares a op b source := by
  obtain ⟨spelled, hop⟩ := List.exists_mem_of_ne_nil op.spellings (by cases op <;> decide)
  exact ⟨_, [], spelled, [], by simp, hop, by simp, rfl⟩

/-- Rounding keeps the order of two integers, unless it makes them one. -/
theorem orderInt_nearestDouble (h : nearestDouble m = nearestDouble n → m = n) :
    orderInt (nearestDouble m) (nearestDouble n) = orderInt m n := by
  have heq : nearestDouble m = nearestDouble n ↔ m = n := ⟨h, congrArg nearestDouble⟩
  have hlt : nearestDouble m < nearestDouble n ↔ m < n := by
    constructor
    · intro hlt
      refine Int.not_le.1 fun hle => ?_
      exact absurd (nearestDouble_mono hle) (Int.not_le.2 hlt)
    · intro hlt
      have hmono := nearestDouble_mono (Int.le_of_lt hlt)
      omega
  simp only [orderInt, heq, hlt]

theorem relates_nearestDouble_iff :
    (∀ op : Comparison, op.relates (nearestDouble m) (nearestDouble n) = op.relates m n) ↔
      (nearestDouble m = nearestDouble n → m = n) := by
  constructor
  · intro h heq
    have hequal := h .eq
    simpa [Comparison.relates, heq] using hequal
  · intro h op
    rw [← holds_orderInt, ← holds_orderInt, orderInt_nearestDouble h]

/-- Integers in a condition compare as the doubles nearest to them, whatever the
operator and wherever the integers come from.  That is how the integers compare
themselves, unless they are different and share their nearest double: those count
as equal.  Integers up to `2 ^ 53` are their own nearest doubles, and rounding
does not turn an order round, so the smaller integer never counts as greater. -/
theorem integers_compare_as_nearest_doubles (ha : IntegerWord c a m) (hb : IntegerWord c b n)
    (hm : IsMachineInteger m) (hn : IsMachineInteger n) :
    (∀ op source, Compares a op b source →
      value source c = .ok (.boolean (op.relates (nearestDouble m) (nearestDouble n)))) ∧
    ((∀ op source, Compares a op b source → value source c = .ok (.boolean (op.relates m n))) ↔
      (nearestDouble m = nearestDouble n → m = n)) ∧
    (m.natAbs ≤ 2 ^ 53 → nearestDouble m = m) ∧
    (m ≤ n → nearestDouble m ≤ nearestDouble n) := by
  have hvalue : ∀ op source, Compares a op b source →
      value source c = .ok (.boolean (op.relates (nearestDouble m) (nearestDouble n))) :=
    fun op source h => value_compares ha hb hm hn h
  refine ⟨hvalue, ?_, fun h => nearestDouble_of_representable (representable_of_le h),
    nearestDouble_mono⟩
  rw [← relates_nearestDouble_iff]
  constructor
  · intro h op
    obtain ⟨source, hsource⟩ := exists_compares a op b
    have := (hvalue op source hsource).symm.trans (h op source hsource)
    simpa using this
  · intro h op source hsource
    rw [hvalue op source hsource, h op]

/-- A scope with a record's number in it: `2 ^ 53 + 1`. -/
def recordScope : Context := { fields := [("id", .int 9007199254740993)] }

theorem recordScope_id : IntegerWord recordScope "{id}".toList 9007199254740993 :=
  @IntegerWord.field _ ['i', 'd'] _ (by decide) (by decide)

theorem numeral_below : IntegerWord recordScope "9007199254740992".toList 9007199254740992 :=
  .numeral (by decide)

theorem id_compares :
    Compares "{id}".toList .eq "9007199254740992".toList "{id}==9007199254740992" :=
  ⟨[], ['=', '='], [], by simp, by decide, by simp, rfl⟩

theorem integers_compare_as_nearest_doubles_neighbours :
    value "{id}==9007199254740992" recordScope = .ok (.boolean true) ∧
      ¬ ∀ op source, Compares "{id}".toList op "9007199254740992".toList source →
        value source recordScope =
          .ok (.boolean (op.relates 9007199254740993 9007199254740992)) := by
  obtain ⟨hvalue, hexact, -, -⟩ := integers_compare_as_nearest_doubles recordScope_id numeral_below
    ⟨by decide, by decide⟩ ⟨by decide, by decide⟩
  exact ⟨hvalue .eq _ id_compares, fun h => absurd (hexact.1 h (by decide)) (by decide)⟩

/-- Two different numbers of records count as equal. -/
theorem neighbouring_integers_count_as_equal :
    value "{id}==9007199254740992" recordScope = .ok (.boolean true) ∧
      Comparison.eq.relates 9007199254740993 9007199254740992 = false := by
  refine ⟨?_, by decide⟩
  rw [value_compares recordScope_id numeral_below ⟨by decide, by decide⟩ ⟨by decide, by decide⟩
    id_compares]
  rfl

end ActionTree.Expr
