import ActionTree.Proofs.Copying
import ActionTree.Proofs.IntegerOperands

/-!
# ActionTree.Proofs.Truth

What a condition and a switch make of one value.

1. a condition that is one reference judges the value of the field, a switch judges the text
   that the value is expanded to;
2. a text is true if it has any character in it that the false texts are not made of
   (`Text.truthy_of_mem`), and most texts of values show one: the mark of a fraction, of a power
   or of a sign, a digit that is not zero, or an opening bracket;
3. so the two judgements differ for three kinds of values, which are false and have a true
   text: the zeros of floating point, the empty list and the empty record
   (`Value.truthy_toText_iff`).
-/

namespace ActionTree

open Text Run

/-! ## Texts that are true -/

namespace Text

/-- The characters that the false texts are made of, in lower case. -/
def falseLetters : List Char := ['0', 'f', 'a', 'l', 's', 'e', 'n', 'o']

/-- A text is true if it has a character in it that no false text has. -/
theorem truthy_of_mem {s : String} {d : Char} (hd : d ∈ s.toList) (hblank : isBlank d = false)
    (hletter : d.toLower ∉ falseLetters) : Text.truthy s = true := by
  have hkept : d ∈ (trim s).toList := by
    rw [trim, String.toList_ofList]
    exact mem_trimChars hblank hd
  have hlower : d.toLower ∈ (lower (trim s)).toList := by
    rw [lower, String.toList_ofList]
    exact List.mem_map_of_mem hkept
  have hempty : trim s ≠ "" := by
    intro heq
    simp [heq] at hkept
  have hzero : trim s ≠ "0" := by
    intro heq
    obtain rfl : d = '0' := by simpa [heq] using hkept
    exact absurd hletter (by decide)
  have hname (name : String) (hname : ∀ e ∈ name.toList, e.toLower ∈ falseLetters) :
      sameIgnoringCase (trim s) name = false := by
    rw [sameIgnoringCase, beq_eq_false_iff_ne]
    intro heq
    rw [heq, lower, String.toList_ofList] at hlower
    obtain ⟨e, he, heq⟩ := List.mem_map.1 hlower
    exact hletter (heq ▸ hname e he)
  simp only [Text.truthy, hname "false" (by simp [falseLetters]),
    hname "no" (by simp [falseLetters]), hname "off" (by simp [falseLetters]),
    beq_eq_false_iff_ne.2 hempty, beq_eq_false_iff_ne.2 hzero, Bool.or_self, Bool.not_false]

end Text

/-! ## Texts of numbers -/

/-- A positive number has a digit that is not zero. -/
theorem exists_digit_ne_zero {n : Nat} (hn : n ≠ 0) : ∃ d ∈ digitsOf n, d ≠ '0' := by
  by_contra hall
  simp only [not_exists, not_and, not_not] at hall
  have hzeros : digitsOf n = List.replicate (digitsOf n).length '0' :=
    List.eq_replicate_of_mem hall
  have hnumber (k : Nat) : numberOf (List.replicate k '0') = 0 := by
    induction k with
    | zero => rfl
    | succ k ih => exact ih
  exact hn (by rw [← numberOf_digitsOf n, hzeros, hnumber])

theorem truthy_integer (n : Int) : Text.truthy (Number.integer n).text = decide (n ≠ 0) := by
  have hmark {d : Char} (hd : d ∈ intChars n) (hblank : isBlank d = false)
      (hletter : d.toLower ∉ falseLetters) : Text.truthy (Number.integer n).text = true :=
    truthy_of_mem (by rwa [Number.text, String.toList_ofList]) hblank hletter
  cases n with
  | negSucc m =>
    rw [hmark (d := '-') List.mem_cons_self (by decide) (by decide)]
    rfl
  | ofNat m =>
    by_cases hm : m = 0
    · subst hm
      decide +kernel
    · obtain ⟨d, hd, hne⟩ := exists_digit_ne_zero hm
      have hdigit := isDigit_of_mem_digitsOf hd
      have hletter : d.toLower ∉ falseLetters := by
        rw [Expr.toLower_of_isDigit hdigit]
        intro hmem
        simp only [falseLetters, List.mem_cons, List.not_mem_nil, or_false] at hmem
        rcases hmem with rfl | rfl | rfl | rfl | rfl | rfl | rfl | rfl <;> contradiction
      rw [hmark hd (isBlank_of_isAlphanum (by simp [Char.isAlphanum, hdigit])) hletter]
      simpa using hm

/-- Digits with a point or a power show which: by the point, or by the sign of the power. -/
theorem Digits.exists_mark (x : Digits) : ∃ d ∈ x.chars, d = '.' ∨ d = '+' ∨ d = '-' := by
  have hpower (power : Int) : ∃ d ∈ powerChars power, d = '.' ∨ d = '+' ∨ d = '-' := by
    rw [powerChars]
    split
    · exact ⟨'-', by simp, by simp⟩
    · exact ⟨'+', by simp, by simp⟩
  unfold Digits.chars
  dsimp only
  split
  · split
    · exact ⟨'.', by simp, by simp⟩
    · split
      · exact ⟨'.', by simp, by simp⟩
      · exact ⟨'.', by simp, by simp⟩
  · split
    · next c _ =>
      obtain ⟨d, hd, hmark⟩ := hpower (x.exponent + (digitsOf x.digits).length - 1)
      exact ⟨d, List.mem_cons_of_mem c hd, hmark⟩
    · exact ⟨'.', by simp, by simp⟩
    · next hnil => exact absurd hnil (digitsOf_ne_nil x.digits)

/-- The text of a floating-point number shows that it is one. -/
theorem Finite.exists_mark (x : Finite) : ∃ d ∈ x.chars, d = '.' ∨ d = '+' ∨ d = '-' := by
  have hbody : ∃ d ∈ (if x.isZero then ['0', '.', '0'] else x.shortest.chars),
      d = '.' ∨ d = '+' ∨ d = '-' := by
    split
    · exact ⟨'.', by simp, by simp⟩
    · exact x.shortest.exists_mark
  rw [Finite.chars]
  split
  · exact ⟨'-', List.mem_cons_self, by simp⟩
  · exact hbody

theorem truthy_real (x : Finite) : Text.truthy (Number.real x).text = true := by
  obtain ⟨d, hd, hmark⟩ := x.exists_mark
  have hmem : d ∈ (Number.real x).text.toList := by rwa [Number.text, String.toList_ofList]
  rcases hmark with rfl | rfl | rfl <;> exact truthy_of_mem hmem (by decide) (by decide)

/-! ## Values -/

namespace Value

/-- A value that is false and has a text that is true: a zero of floating point, the empty list,
the empty record. -/
def belied : Value → Bool
  | number (.real x) => x.isZero
  | list vs => vs.isEmpty
  | record es => es.isEmpty
  | _ => false

theorem truthy_compact {v : Value} {d : Char} {rest : List Char} (h : Json.write v [] = d :: rest)
    (hblank : isBlank d = false) (hletter : d.toLower ∉ falseLetters) :
    Text.truthy (Json.compact v) = true := by
  refine truthy_of_mem (d := d) ?_ hblank hletter
  rw [Json.compact, String.toList_ofList, h]
  exact List.mem_cons_self

/-- What a condition makes of a value is what a switch makes of its text, but for the values that
their texts belie. -/
theorem truthy_toText (v : Value) : Text.truthy v.toText = (v.truthy || v.belied) := by
  cases v with
  | null => decide
  | boolean b => cases b <;> decide
  | number n =>
    cases n with
    | integer n =>
      change Text.truthy (Number.integer n).text = (decide (n ≠ 0) || false)
      rw [truthy_integer, Bool.or_false]
    | real x =>
      change Text.truthy (Number.real x).text = (!x.isZero || x.isZero)
      rw [truthy_real, Bool.not_or_self]
  | text s =>
    change Text.truthy s = (Text.truthy s || false)
    rw [Bool.or_false]
  | list vs =>
    change Text.truthy (Json.compact (list vs)) = (!vs.isEmpty || vs.isEmpty)
    rw [truthy_compact (d := '[') rfl (by decide) (by decide), Bool.not_or_self]
  | record es =>
    change Text.truthy (Json.compact (record es)) = (!es.isEmpty || es.isEmpty)
    rw [truthy_compact (d := '\x7b') rfl (by decide) (by decide), Bool.not_or_self]

/-- A value that its text belies is false. -/
theorem truthy_of_belied {v : Value} (h : v.belied = true) : v.truthy = false := by
  have hnot {b : Bool} (hb : b = true) : (!b) = false := by rw [hb, Bool.not_true]
  cases v with
  | number n =>
    cases n with
    | integer n => contradiction
    | real x => exact hnot h
  | list vs => exact hnot h
  | record es => exact hnot h
  | _ => contradiction

theorem truthy_toText_iff (v : Value) : Text.truthy v.toText = v.truthy ↔ v.belied = false := by
  rw [truthy_toText]
  cases h : v.belied with
  | false => simp
  | true => simp [truthy_of_belied h]

end Value

/-! ## Conditions and subjects -/

/-- A condition that is one reference has the value of the field. -/
theorem Expr.value_reference {name : String} (hname : isName name.toList = true) {c : Context}
    {v : Value} (hv : c.resolve name = some v) :
    Expr.value ("\x7b" ++ name ++ "\x7d") c = .ok v := by
  have hword : (Expr.inScope c).word ('{' :: (name.toList ++ ['}'])) = .operand v := by
    simp [Expr.Reading.word, Expr.Reading.ofReferences, Expr.loneReference?_of_isName hname,
      Expr.inScope, hv]
  have htokens : (Expr.inScope c).tokens ("\x7b" ++ name ++ "\x7d") = .ok [.operand v] := by
    have hchars : ("\x7b" ++ name ++ "\x7d").toList = '{' :: (name.toList ++ ['}']) := by simp
    rw [Expr.Reading.tokens, hchars, Expr.tokensOf_last _ (List.cons_ne_nil _ _)
      fun d hd => Expr.undelimited_reference hname hd, hword]
  rw [Expr.value, Expr.Reading.read, htokens]
  rfl

/-- The branch that a switch takes, if it takes one. -/
def Host.branch? (h : Host) (n : Node) (c : Context) : Except Error (Option Node) :=
  match h.attr? n "subject" c with
  | .error e => .error e
  | .ok subject => h.select (subject.getD "") c n.children

/-- A switch comes to what the nodes of the branch come to that it takes. -/
theorem Run.switch_branch? (h : Host) (exec : Node → Run Flow) (n : Node) (s : State) :
    switch h exec n s = match h.branch? n s.scope with
      | .error e => (.error (.error e), s)
      | .ok none => (.ok .next, s)
      | .ok (some branch) => sequence exec branch.children s := by
  rw [switch_apply, Host.branch?]
  cases h.attr? n "subject" s.scope <;> rfl

/-- A block whose only gate is a condition that is one reference. -/
structure Node.EnteredIf (n : Node) (name : String) : Prop where
  condition : n.attr? "condition" = some ("\x7b" ++ name ++ "\x7d")
  requires : n.attr? "requires" = none
  notRequires : n.attr? "not-requires" = none

/-- A switch whose subject is one reference, with a branch for each truth. -/
structure Node.SwitchesOn (n : Node) (name : String) : Prop where
  subject : n.attr? "subject" = some ("\x7b" ++ name ++ "\x7d")
  branches : ∀ b ∈ n.children, b.name = "true" ∨ b.name = "false"
  onTrue : ∃ b ∈ n.children, b.name = "true"
  onFalse : ∃ b ∈ n.children, b.name = "false"

section Guards

variable {h : Host} {c : Context} {n : Node} {name subject : String} {v : Value}

theorem Node.EnteredIf.enters (hn : n.EnteredIf name) (hname : isName name.toList = true)
    (hv : c.resolve name = some v) : h.enters n c = .ok v.truthy := by
  have hcondition : n.condition "condition" c = .ok v.truthy := by
    rw [Node.condition, hn.condition]
    simp only [Expr.holds, Expr.value_reference hname hv, Except.map]
  have hprivileges {key : String} (hkey : n.attr? key = none) :
      h.privileged? n key c = .ok none := by
    rw [Host.privileged?, Host.attr?, hkey]
    rfl
  rw [Host.enters, hcondition]
  cases v.truthy with
  | false => rfl
  | true =>
    simp only [hprivileges hn.requires, hprivileges hn.notRequires]
    rfl

/-- Of branches for truths the first for the truth of the subject is taken. -/
theorem Host.select_truths {branches : List Node}
    (hbranches : ∀ b ∈ branches, b.name = "true" ∨ b.name = "false") :
    h.select subject c branches =
      .ok (branches.find? fun b => (b.name == "true") == Text.truthy subject) := by
  induction branches with
  | nil => rfl
  | cons b bs ih =>
    have hfits : h.fits b subject c = .ok ((b.name == "true") == Text.truthy subject) := by
      unfold Host.fits
      rcases hbranches b List.mem_cons_self with hb | hb
      · simp [hb]
      · simp [hb]
    rw [Host.select, hfits, List.find?_cons]
    cases (b.name == "true") == Text.truthy subject with
    | true => rfl
    | false => exact ih fun b' hb' => hbranches b' (List.mem_cons_of_mem b hb')

theorem Node.SwitchesOn.branch? (hn : n.SwitchesOn name)
    (hbraces : h.services.templates = .braces) (hname : isName name.toList = true)
    (hv : c.resolve name = some v) :
    ∃ b, h.branch? n c = .ok (some b) ∧ b ∈ n.children ∧
      (b.name = "true" ↔ Text.truthy v.toText = true) := by
  have hsubject : h.attr? n "subject" c = .ok (some v.toText) := by
    rw [Host.attr?, hn.subject, Host.expand?, expand_braces hbraces,
      Template.expand_reference hname, Piece.text, hv]
    rfl
  have hbranch : h.branch? n c =
      .ok (n.children.find? fun b => (b.name == "true") == Text.truthy v.toText) := by
    rw [Host.branch?, hsubject]
    exact Host.select_truths hn.branches
  obtain ⟨b, hb, htruth⟩ : ∃ b ∈ n.children, (b.name == "true") = Text.truthy v.toText := by
    cases Text.truthy v.toText with
    | true =>
      obtain ⟨b, hb, heq⟩ := hn.onTrue
      exact ⟨b, hb, by rw [heq]; rfl⟩
    | false =>
      obtain ⟨b, hb, heq⟩ := hn.onFalse
      exact ⟨b, hb, by rw [heq]; rfl⟩
  have hsome : (n.children.find? fun b =>
      (b.name == "true") == Text.truthy v.toText).isSome = true := by
    rw [List.find?_isSome]
    exact ⟨b, hb, beq_iff_eq.2 htruth⟩
  obtain ⟨taken, htaken⟩ := Option.isSome_iff_exists.1 hsome
  refine ⟨taken, by rw [hbranch, htaken], List.mem_of_find?_eq_some htaken, ?_⟩
  have hfound := List.find?_some htaken
  rw [beq_iff_eq] at hfound
  rw [← hfound, beq_iff_eq]

end Guards

namespace Run

/-- **A block and a switch on one field agree if and only if the value's text does not belie
it.**  The block is entered if the value is true; the switch takes its branch for true if the
text is true, and its branch for false otherwise.  That is the same for every value but the
zeros of floating point, the empty list and the empty record. -/
theorem guards_agree_iff {h : Host} {c : Context} {gate choice : Node} {name : String} {v : Value}
    (hbraces : h.services.templates = .braces) (hname : isName name.toList = true)
    (hv : c.resolve name = some v) (hgate : gate.EnteredIf name)
    (hchoice : choice.SwitchesOn name) :
    ∃ taken ∈ choice.children, h.enters gate c = .ok v.truthy ∧
      (∀ exec s, s.scope = c → switch h exec choice s = sequence exec taken.children s) ∧
      (taken.name = "true" ∨ taken.name = "false") ∧
      (taken.name = "true" ↔ Text.truthy v.toText = true) ∧
      ((v.truthy = true ↔ taken.name = "true") ↔ v.belied = false) := by
  obtain ⟨taken, hbranch, hmem, htruth⟩ := hchoice.branch? hbraces hname hv
  refine ⟨taken, hmem, hgate.enters hname hv, ?_, hchoice.branches taken hmem, htruth, ?_⟩
  · rintro exec s rfl
    rw [switch_branch?, hbranch]
  · rw [htruth, ← Value.truthy_toText_iff]
    exact ⟨fun hagree => (Bool.eq_iff_iff.2 hagree).symm, fun heq => by rw [heq]⟩

/-- A block and a switch on the field `x`. -/
def gateOnX : Node := { name := "block", attributes := [("condition", "\x7bx\x7d")] }

/-- The switch has its branch for false first. -/
def choiceOnX : Node :=
  { name := "switch", attributes := [("subject", "\x7bx\x7d")]
    children := [{ name := "false" }, { name := "true" }] }

theorem gateOnX_enteredIf : gateOnX.EnteredIf "x" := ⟨by decide, by decide, by decide⟩

theorem choiceOnX_switchesOn : choiceOnX.SwitchesOn "x" where
  subject := by decide
  branches := by decide
  onTrue := by decide
  onFalse := by decide

/-- The scope with one value in the field `x`. -/
def scopeWithX (v : Value) : Context := { fields := [("x", v)] }

/-- Where the value is a negative zero, the block is passed by and the switch goes into its
branch for true. -/
theorem guards_agree_iff_negativeZero :
    let h := Host.ofLibrary {}
    let v := Value.number (.real (Finite.zero true))
    (h.services.templates = .braces ∧ isName "x".toList = true ∧
      (scopeWithX v).resolve "x" = some v ∧ gateOnX.EnteredIf "x" ∧ choiceOnX.SwitchesOn "x") ∧
    ∃ taken ∈ choiceOnX.children, h.enters gateOnX (scopeWithX v) = .ok false ∧
      (∀ exec s, s.scope = scopeWithX v →
        switch h exec choiceOnX s = sequence exec taken.children s) ∧ taken.name = "true" := by
  intro h v
  have hv : (scopeWithX v).resolve "x" = some v := by decide
  obtain ⟨taken, hmem, henters, hswitch, -, htruth, -⟩ :=
    guards_agree_iff (h := h) rfl (by decide) hv gateOnX_enteredIf choiceOnX_switchesOn
  exact ⟨⟨rfl, by decide, hv, gateOnX_enteredIf, choiceOnX_switchesOn⟩,
    taken, hmem, henters, hswitch, htruth.2 (truthy_real (Finite.zero true))⟩

/-- With the value in the field, the block is passed by and the switch takes its branch for
true. -/
def SplitsGuards (v : Value) : Prop :=
  let h := Host.ofLibrary {}
  h.enters gateOnX (scopeWithX v) = .ok false ∧
    ∃ taken, h.branch? choiceOnX (scopeWithX v) = .ok (some taken) ∧ taken.name = "true"

theorem splitsGuards_of_belied {v : Value} (hv : v.belied = true) : SplitsGuards v := by
  have hresolve : (scopeWithX v).resolve "x" = some v := by
    cases v <;> rfl
  have henters := gateOnX_enteredIf.enters (h := Host.ofLibrary {}) (by decide) hresolve
  obtain ⟨taken, hbranch, -, htruth⟩ :=
    choiceOnX_switchesOn.branch? (h := Host.ofLibrary {}) rfl (by decide) hresolve
  rw [Value.truthy_of_belied hv] at henters
  rw [Value.truthy_toText, hv, Bool.or_true] at htruth
  exact ⟨henters, taken, hbranch, htruth.2 rfl⟩

/-- On the empty list, the empty record and a zero of floating point a block and a switch
disagree. -/
theorem empty_values_split_guards :
    SplitsGuards (.list []) ∧ SplitsGuards (.record []) ∧
      SplitsGuards (.number (.real (Finite.zero false))) :=
  ⟨splitsGuards_of_belied rfl, splitsGuards_of_belied rfl, splitsGuards_of_belied rfl⟩

end Run

end ActionTree
