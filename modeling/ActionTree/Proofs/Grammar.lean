import ActionTree.Proofs.Derivation
import ActionTree.Proofs.Substitution

/-!
# ActionTree.Proofs.Grammar

The parser of conditions accepts exactly the grammar.

1. what has a derivation that is not nested too deeply is read, with the value of the
   derivation (`Disjunction.read`);
2. what the parser reads has a derivation, of the value that it gives (`ofDepth_sound`);
3. a condition is cut into tokens unless, outside of quotes, a quote is not closed or
   one of `&` and `|` stands alone (`tokensOf_isOk`).

Both directions follow the parser level by level: a level of the parser has as many
below it as parentheses and negations may still be opened.  A phrase is read up to
where it ends because what comes behind it does not bind tightly enough (`grip`).
-/

namespace ActionTree.Expr

open Text

namespace Grammar

variable (c : Context)

/-- The level below one that has `depth` levels below it. -/
def beneath : (depth : Nat) → Option (Level Value)
  | 0 => none
  | depth + 1 => some (Level.ofDepth (inScope c) depth)

theorem ofDepth_eq (depth : Nat) :
    Level.ofDepth (inScope c) depth = Level.above (inScope c) (beneath c depth) := by
  cases depth <;> rfl

theorem readNegated_succ (depth : Nat) (ts : List (Token Value)) :
    Level.readNegated (inScope c) (beneath c (depth + 1)) ts =
      (Level.readNegation (inScope c) (beneath c depth) ts).map
        fun (v, rest) => (.boolean !v.truthy, rest) := by
  rw [beneath, Level.readNegated, ofDepth_eq]
  rfl

theorem readEnclosed_succ {depth : Nat} {ts rest : List (Token Value)} {v : Value}
    (h : Level.readDisjunction (inScope c) (beneath c depth) ts = .ok (v, .closeParen :: rest)) :
    Level.readEnclosed (beneath c (depth + 1)) ts = .ok (v, rest) := by
  rw [beneath, Level.readEnclosed, ofDepth_eq]
  dsimp only [Level.above]
  rw [h]

/-! ## Every derivation is read -/

variable {c}

theorem readComparison_of_not_not {below : Option (Level Value)} {ts : List (Token Value)}
    (hts : ∀ us, ts ≠ .not :: us) :
    Level.readNegation (inScope c) below ts = Level.readComparison (inScope c) below ts := by
  unfold Level.readNegation
  split
  · exact absurd rfl (hts _)
  · rfl

theorem moreDisjuncts_of_grip {below : Option (Level Value)} {rest : List (Token Value)}
    (hrest : grip rest = 0) (fuel : Nat) (v : Value) :
    Level.moreDisjuncts (inScope c) below fuel v rest = .ok (v, rest) := by
  unfold Level.moreDisjuncts
  split
  · contradiction
  · rfl

theorem moreConjuncts_of_grip {below : Option (Level Value)} {rest : List (Token Value)}
    (hrest : grip rest ≤ 1) (fuel : Nat) (v : Value) :
    Level.moreConjuncts (inScope c) below fuel v rest = .ok (v, rest) := by
  unfold Level.moreConjuncts
  split
  · simp [grip] at hrest
  · rfl

theorem readOperand_of_missing {below : Option (Level Value)} {rest : List (Token Value)}
    (hrest : beginsOperand rest = false) :
    Level.readOperand (inScope c) below rest = .ok (.text "", rest) := by
  unfold Level.readOperand
  split
  · contradiction
  · contradiction
  · contradiction
  · rfl

mutual

theorem Disjunction.read (d : Disjunction Value) {depth : Nat} {rest : List (Token Value)}
    (hfit : d.Fits rest) (hdepth : d.nesting ≤ depth) (hrest : grip rest = 0) :
    Level.readDisjunction (inScope c) (beneath c depth) (d.tokens ++ rest) =
      .ok (d.value, rest) := by
  obtain ⟨first, more⟩ := d
  have hle : first.nesting ≤ depth ∧ more.nesting ≤ depth := Nat.max_le.mp hdepth
  rw [Disjunction.tokens, List.append_assoc, Level.readDisjunction,
    first.read hfit.1 hle.1 (grip_disjuncts hrest)]
  exact more.read hfit.2 hle.2 hrest (Nat.le_refl _) first.value
termination_by structural d

theorem Disjuncts.read (ds : Disjuncts Value) {depth : Nat} {rest : List (Token Value)}
    (hfit : ds.Fits rest) (hdepth : ds.nesting ≤ depth) (hrest : grip rest = 0) {fuel : Nat}
    (hfuel : (ds.tokens ++ rest).length ≤ fuel) (v : Value) :
    Level.moreDisjuncts (inScope c) (beneath c depth) fuel v (ds.tokens ++ rest) =
      .ok (ds.valueAfter v, rest) := by
  cases ds with
  | done => exact moreDisjuncts_of_grip hrest fuel v
  | or next more =>
    have hle : next.nesting ≤ depth ∧ more.nesting ≤ depth := Nat.max_le.mp hdepth
    simp only [Disjuncts.tokens, List.cons_append, List.append_assoc, List.length_cons,
      List.length_append] at hfuel ⊢
    obtain ⟨fuel, rfl⟩ := Nat.exists_eq_add_one_of_ne_zero (n := fuel) (by omega)
    rw [Level.moreDisjuncts, next.read hfit.1 hle.1 (grip_disjuncts hrest)]
    refine more.read hfit.2 hle.2 hrest ?_ _
    rw [List.length_append]
    omega
termination_by structural ds

theorem Conjunction.read (n : Conjunction Value) {depth : Nat} {rest : List (Token Value)}
    (hfit : n.Fits rest) (hdepth : n.nesting ≤ depth) (hrest : grip rest ≤ 1) :
    Level.readConjunction (inScope c) (beneath c depth) (n.tokens ++ rest) =
      .ok (n.value, rest) := by
  obtain ⟨first, more⟩ := n
  have hle : first.nesting ≤ depth ∧ more.nesting ≤ depth := Nat.max_le.mp hdepth
  rw [Conjunction.tokens, List.append_assoc, Level.readConjunction,
    first.read hfit.1 hle.1 (grip_conjuncts hrest)]
  exact more.read hfit.2 hle.2 hrest (Nat.le_refl _) first.value
termination_by structural n

theorem Conjuncts.read (cs : Conjuncts Value) {depth : Nat} {rest : List (Token Value)}
    (hfit : cs.Fits rest) (hdepth : cs.nesting ≤ depth) (hrest : grip rest ≤ 1) {fuel : Nat}
    (hfuel : (cs.tokens ++ rest).length ≤ fuel) (v : Value) :
    Level.moreConjuncts (inScope c) (beneath c depth) fuel v (cs.tokens ++ rest) =
      .ok (cs.valueAfter v, rest) := by
  cases cs with
  | done => exact moreConjuncts_of_grip hrest fuel v
  | and next more =>
    have hle : next.nesting ≤ depth ∧ more.nesting ≤ depth := Nat.max_le.mp hdepth
    simp only [Conjuncts.tokens, List.cons_append, List.append_assoc, List.length_cons,
      List.length_append] at hfuel ⊢
    obtain ⟨fuel, rfl⟩ := Nat.exists_eq_add_one_of_ne_zero (n := fuel) (by omega)
    rw [Level.moreConjuncts, next.read hfit.1 hle.1 (grip_conjuncts hrest)]
    refine more.read hfit.2 hle.2 hrest ?_ _
    rw [List.length_append]
    omega
termination_by structural cs

theorem Negation.read (n : Negation Value) {depth : Nat} {rest : List (Token Value)}
    (hfit : n.Fits rest) (hdepth : n.nesting ≤ depth) (hrest : grip rest ≤ 2) :
    Level.readNegation (inScope c) (beneath c depth) (n.tokens ++ rest) =
      .ok (n.value, rest) := by
  cases n with
  | not n =>
    have hlt : n.nesting + 1 ≤ depth := hdepth
    obtain ⟨depth, rfl⟩ := Nat.exists_eq_add_one_of_ne_zero (n := depth) (by omega)
    rw [Negation.tokens, List.cons_append, Level.readNegation, readNegated_succ,
      n.read hfit (by omega) hrest]
    rfl
  | plain r =>
    rw [Negation.tokens, readComparison_of_not_not fun us => Relation.tokens_append_ne_not hfit]
    exact r.read hfit hdepth hrest
termination_by structural n

theorem Relation.read (r : Relation Value) {depth : Nat} {rest : List (Token Value)}
    (hfit : r.Fits rest) (hdepth : r.nesting ≤ depth) (hrest : grip rest ≤ 2) :
    Level.readComparison (inScope c) (beneath c depth) (r.tokens ++ rest) =
      .ok (r.value, rest) := by
  cases r with
  | alone a =>
    rw [Relation.tokens, Level.readComparison, a.read hfit hdepth]
    split
    · contradiction
    · next heq =>
      cases heq
      simp [grip] at hrest
    · next heq => 
      cases heq
      rfl
  | compare a op b =>
    have hle : a.nesting ≤ depth ∧ b.nesting ≤ depth := Nat.max_le.mp hdepth
    rw [Relation.tokens, List.append_assoc, Level.readComparison, List.cons_append,
      a.read hfit.1 hle.1]
    dsimp only
    rw [b.read hfit.2 hle.2 hrest]
    rfl
termination_by structural r

theorem Operand.read (o : Operand Value) {depth : Nat} {rest : List (Token Value)}
    (hfit : o.Fits rest) (hdepth : o.nesting ≤ depth) :
    Level.readOperand (inScope c) (beneath c depth) (o.tokens ++ rest) = .ok (o.value, rest) := by
  cases o with
  | enclosed d =>
    have hlt : d.nesting + 1 ≤ depth := hdepth
    obtain ⟨depth, rfl⟩ := Nat.exists_eq_add_one_of_ne_zero (n := depth) (by omega)
    rw [Operand.tokens, List.cons_append, List.append_assoc, Level.readOperand]
    exact readEnclosed_succ c (d.read hfit (by omega) rfl)
  | literal v => rfl
  | missing =>
    rw [Operand.tokens, List.nil_append]
    exact readOperand_of_missing hfit
termination_by structural o

theorem RightOperand.read (b : RightOperand Value) {depth : Nat} {rest : List (Token Value)}
    (hfit : b.Fits rest) (hdepth : b.nesting ≤ depth) (hrest : grip rest ≤ 2) :
    Level.readOperand (inScope c) (beneath c depth) (b.tokens ++ rest) = .ok (b.value, rest) := by
  cases b with
  | plain o => exact o.read hfit hdepth
  | negated n =>
    have hlt : n.nesting + 1 ≤ depth := hdepth
    obtain ⟨depth, rfl⟩ := Nat.exists_eq_add_one_of_ne_zero (n := depth) (by omega)
    rw [RightOperand.tokens, List.cons_append, Level.readOperand, readNegated_succ,
      n.read hfit (by omega) hrest]
    rfl
termination_by structural b

end

/-! ## What is read has a derivation -/

/-- What a level reads has a derivation that is nested at most `depth` deep. -/
structure Sound (level : Level Value) (depth : Nat) : Prop where
  disjunction : ∀ {ts v rest}, level.disjunction ts = .ok (v, rest) →
    ∃ d : Disjunction Value,
      d.tokens ++ rest = ts ∧ d.Fits rest ∧ d.nesting ≤ depth ∧ d.value = v
  negation : ∀ {ts v rest}, level.negation ts = .ok (v, rest) →
    ∃ n : Negation Value,
      n.tokens ++ rest = ts ∧ n.Fits rest ∧ n.nesting ≤ depth ∧ n.value = v

/-- The level below, if there is one, is sound to a smaller depth. -/
def SoundBelow (below : Option (Level Value)) (depth : Nat) : Prop :=
  ∀ level, below = some level → ∃ n, depth = n + 1 ∧ Sound level n

variable {below : Option (Level Value)} {depth : Nat} {ts rest : List (Token Value)} {v : Value}

theorem readNegated_sound (hbelow : SoundBelow below depth)
    (h : Level.readNegated (inScope c) below ts = .ok (v, rest)) :
    ∃ n : Negation Value, n.tokens ++ rest = ts ∧ n.Fits rest ∧ n.nesting + 1 ≤ depth ∧
      .boolean (!n.value.truthy) = v := by
  cases below with
  | none => contradiction
  | some level =>
    obtain ⟨m, rfl, hlevel⟩ := hbelow level rfl
    rw [Level.readNegated] at h
    cases hread : level.negation ts with
    | error f =>
      rw [hread] at h
      contradiction
    | ok p =>
      rw [hread] at h
      cases h
      obtain ⟨n, htokens, hfit, hdepth, hvalue⟩ := hlevel.negation hread
      exact ⟨n, htokens, hfit, Nat.succ_le_succ hdepth, by rw [hvalue]; rfl⟩

theorem readEnclosed_sound (hbelow : SoundBelow below depth)
    (h : Level.readEnclosed below ts = .ok (v, rest)) :
    ∃ d : Disjunction Value, d.tokens ++ .closeParen :: rest = ts ∧
      d.Fits (.closeParen :: rest) ∧ d.nesting + 1 ≤ depth ∧ d.value = v := by
  cases below with
  | none => contradiction
  | some level =>
    obtain ⟨m, rfl, hlevel⟩ := hbelow level rfl
    rw [Level.readEnclosed] at h
    split at h
    · contradiction
    · next hread =>
      cases h
      obtain ⟨d, htokens, hfit, hdepth, hvalue⟩ := hlevel.disjunction hread
      exact ⟨d, htokens, hfit, Nat.succ_le_succ hdepth, hvalue⟩
    · contradiction

theorem readOperand_sound (hbelow : SoundBelow below depth)
    (h : Level.readOperand (inScope c) below ts = .ok (v, rest)) :
    ∃ b : RightOperand Value,
      b.tokens ++ rest = ts ∧ b.Fits rest ∧ b.nesting ≤ depth ∧ b.value = v := by
  rw [Level.readOperand.eq_def] at h
  split at h
  · obtain ⟨d, htokens, hfit, hdepth, hvalue⟩ := readEnclosed_sound hbelow h
    refine ⟨.plain (.enclosed d), ?_, hfit, hdepth, hvalue⟩
    simp [RightOperand.tokens, Operand.tokens, htokens]
  · cases h
    exact ⟨.plain (.literal v), rfl, trivial, Nat.zero_le _, rfl⟩
  · obtain ⟨n, htokens, hfit, hdepth, hvalue⟩ := readNegated_sound hbelow h
    refine ⟨.negated n, ?_, hfit, hdepth, hvalue⟩
    rw [RightOperand.tokens, List.cons_append, htokens]
  · next hparen hliteral hnot =>
    cases h
    refine ⟨.plain .missing, rfl, ?_, Nat.zero_le _, rfl⟩
    show beginsOperand ts = false
    unfold beginsOperand
    split
    · exact absurd rfl (hparen _)
    · exact absurd rfl (hliteral _ _)
    · exact absurd rfl (hnot _)
    · rfl

theorem readComparison_sound (hbelow : SoundBelow below depth) (hnot : ∀ us, ts ≠ .not :: us)
    (h : Level.readComparison (inScope c) below ts = .ok (v, rest)) :
    ∃ r : Relation Value,
      r.tokens ++ rest = ts ∧ r.Fits rest ∧ r.nesting ≤ depth ∧ r.value = v := by
  -- where no negation begins the operand on the left is not one
  have hleft : ∀ {v rest}, Level.readOperand (inScope c) below ts = .ok (v, rest) →
      ∃ a : Operand Value, a.tokens ++ rest = ts ∧ a.Fits rest ∧ a.nesting ≤ depth ∧
        a.value = v := by
    intro v rest hread
    obtain ⟨b, htokens, hfit, hdepth, hvalue⟩ := readOperand_sound hbelow hread
    cases b with
    | plain a => exact ⟨a, htokens, hfit, hdepth, hvalue⟩
    | negated n => exact absurd htokens.symm (hnot _)
  rw [Level.readComparison] at h
  split at h
  · contradiction
  · next left op rest' hread =>
    obtain ⟨a, htokens, hfit, hdepth, hvalue⟩ := hleft hread
    cases hright : Level.readOperand (inScope c) below rest' with
    | error f =>
      rw [hright] at h
      contradiction
    | ok p =>
      rw [hright] at h
      cases h
      obtain ⟨b, hbtokens, hbfit, hbdepth, hbvalue⟩ := readOperand_sound hbelow hright
      refine ⟨.compare a op b, ?_, ⟨?_, hbfit⟩, Nat.max_le.mpr ⟨hdepth, hbdepth⟩, ?_⟩
      · rw [Relation.tokens, List.append_assoc, List.cons_append, hbtokens, htokens]
      · rw [hbtokens]
        exact hfit
      · rw [Relation.value, hvalue, hbvalue]
        rfl
  · next hread =>
    cases h
    obtain ⟨a, htokens, hfit, hdepth, hvalue⟩ := hleft hread
    exact ⟨.alone a, htokens, hfit, hdepth, hvalue⟩

theorem readNegation_sound (hbelow : SoundBelow below depth)
    (h : Level.readNegation (inScope c) below ts = .ok (v, rest)) :
    ∃ n : Negation Value,
      n.tokens ++ rest = ts ∧ n.Fits rest ∧ n.nesting ≤ depth ∧ n.value = v := by
  rw [Level.readNegation.eq_def] at h
  split at h
  · obtain ⟨n, htokens, hfit, hdepth, hvalue⟩ := readNegated_sound hbelow h
    refine ⟨.not n, ?_, hfit, hdepth, hvalue⟩
    rw [Negation.tokens, List.cons_append, htokens]
  · next hnot =>
    obtain ⟨r, htokens, hfit, hdepth, hvalue⟩ := readComparison_sound hbelow hnot h
    exact ⟨.plain r, htokens, hfit, hdepth, hvalue⟩

theorem moreConjuncts_sound (hbelow : SoundBelow below depth) {fuel : Nat} {left : Value}
    (h : Level.moreConjuncts (inScope c) below fuel left ts = .ok (v, rest)) :
    ∃ cs : Conjuncts Value,
      cs.tokens ++ rest = ts ∧ cs.Fits rest ∧ cs.nesting ≤ depth ∧ cs.valueAfter left = v := by
  induction fuel generalizing left ts with
  | zero =>
    cases h
    exact ⟨.done, rfl, trivial, Nat.zero_le _, rfl⟩
  | succ fuel ih =>
    rw [Level.moreConjuncts.eq_def] at h
    split at h
    · next ts' hfuel =>
      cases hfuel
      split at h
      · contradiction
      · next hread =>
        obtain ⟨n, htokens, hfit, hdepth, hvalue⟩ := readNegation_sound hbelow hread
        obtain ⟨cs, hcstokens, hcsfit, hcsdepth, hcsvalue⟩ := ih h
        refine ⟨.and n cs, ?_, ⟨?_, hcsfit⟩, Nat.max_le.mpr ⟨hdepth, hcsdepth⟩, ?_⟩
        · rw [Conjuncts.tokens, List.cons_append, List.append_assoc, hcstokens, htokens]
        · rw [hcstokens]
          exact hfit
        · rw [Conjuncts.valueAfter, hvalue]
          exact hcsvalue
    · cases h
      exact ⟨.done, rfl, trivial, Nat.zero_le _, rfl⟩

theorem readConjunction_sound (hbelow : SoundBelow below depth)
    (h : Level.readConjunction (inScope c) below ts = .ok (v, rest)) :
    ∃ n : Conjunction Value,
      n.tokens ++ rest = ts ∧ n.Fits rest ∧ n.nesting ≤ depth ∧ n.value = v := by
  rw [Level.readConjunction] at h
  split at h
  · contradiction
  · next hread =>
    obtain ⟨n, htokens, hfit, hdepth, hvalue⟩ := readNegation_sound hbelow hread
    obtain ⟨cs, hcstokens, hcsfit, hcsdepth, hcsvalue⟩ := moreConjuncts_sound hbelow h
    refine ⟨.mk n cs, ?_, ⟨?_, hcsfit⟩, Nat.max_le.mpr ⟨hdepth, hcsdepth⟩, ?_⟩
    · rw [Conjunction.tokens, List.append_assoc, hcstokens, htokens]
    · rw [hcstokens]
      exact hfit
    · rw [Conjunction.value, hvalue, hcsvalue]

theorem moreDisjuncts_sound (hbelow : SoundBelow below depth) {fuel : Nat} {left : Value}
    (h : Level.moreDisjuncts (inScope c) below fuel left ts = .ok (v, rest)) :
    ∃ ds : Disjuncts Value,
      ds.tokens ++ rest = ts ∧ ds.Fits rest ∧ ds.nesting ≤ depth ∧ ds.valueAfter left = v := by
  induction fuel generalizing left ts with
  | zero =>
    cases h
    exact ⟨.done, rfl, trivial, Nat.zero_le _, rfl⟩
  | succ fuel ih =>
    rw [Level.moreDisjuncts.eq_def] at h
    split at h
    · next ts' hfuel =>
      cases hfuel
      split at h
      · contradiction
      · next hread =>
        obtain ⟨n, htokens, hfit, hdepth, hvalue⟩ := readConjunction_sound hbelow hread
        obtain ⟨ds, hdstokens, hdsfit, hdsdepth, hdsvalue⟩ := ih h
        refine ⟨.or n ds, ?_, ⟨?_, hdsfit⟩, Nat.max_le.mpr ⟨hdepth, hdsdepth⟩, ?_⟩
        · rw [Disjuncts.tokens, List.cons_append, List.append_assoc, hdstokens, htokens]
        · rw [hdstokens]
          exact hfit
        · rw [Disjuncts.valueAfter, hvalue]
          exact hdsvalue
    · cases h
      exact ⟨.done, rfl, trivial, Nat.zero_le _, rfl⟩

theorem readDisjunction_sound (hbelow : SoundBelow below depth)
    (h : Level.readDisjunction (inScope c) below ts = .ok (v, rest)) :
    ∃ d : Disjunction Value,
      d.tokens ++ rest = ts ∧ d.Fits rest ∧ d.nesting ≤ depth ∧ d.value = v := by
  rw [Level.readDisjunction] at h
  split at h
  · contradiction
  · next hread =>
    obtain ⟨n, htokens, hfit, hdepth, hvalue⟩ := readConjunction_sound hbelow hread
    obtain ⟨ds, hdstokens, hdsfit, hdsdepth, hdsvalue⟩ := moreDisjuncts_sound hbelow h
    refine ⟨.mk n ds, ?_, ⟨?_, hdsfit⟩, Nat.max_le.mpr ⟨hdepth, hdsdepth⟩, ?_⟩
    · rw [Disjunction.tokens, List.append_assoc, hdstokens, htokens]
    · rw [hdstokens]
      exact hfit
    · rw [Disjunction.value, hvalue, hdsvalue]

theorem above_sound (hbelow : SoundBelow below depth) :
    Sound (Level.above (inScope c) below) depth :=
  ⟨readDisjunction_sound hbelow, readNegation_sound hbelow⟩

/-- A level with `depth` levels below it reads what has a derivation of that depth. -/
theorem ofDepth_sound (c : Context) (depth : Nat) :
    Sound (Level.ofDepth (inScope c) depth) depth := by
  induction depth with
  | zero => exact above_sound nofun
  | succ depth ih =>
    refine above_sound ?_
    rintro level ⟨⟩
    exact ⟨depth, rfl, ih⟩

/-! ## Cutting into tokens -/

/-- The quotes of a text. -/
def isQuote (d : Char) : Bool := d = '"' || d = '\''

/-- The characters that stand for an operator only when doubled. -/
def isHalf (d : Char) : Bool := d = '&' || d = '|'

/-- A condition in which, outside of quotes, a quote is not closed or one of `&` and
`|` stands alone. -/
inductive Broken : List Char → Prop where
  | unclosed {q : Char} {rest : List Char} (hq : isQuote q) (h : readQuoted q rest = none) :
      Broken (q :: rest)
  | quoted {q : Char} {rest text after : List Char} (hq : isQuote q)
      (h : readQuoted q rest = some (text, after)) (hafter : Broken after) : Broken (q :: rest)
  | single {d : Char} {rest : List Char} (hd : isHalf d) (h : ∀ us, rest ≠ d :: us) :
      Broken (d :: rest)
  | doubled {d : Char} {rest : List Char} (hd : isHalf d) (hrest : Broken rest) :
      Broken (d :: d :: rest)
  | other {d : Char} {rest : List Char} (hq : isQuote d = false) (hd : isHalf d = false)
      (hrest : Broken rest) : Broken (d :: rest)

theorem not_broken_nil : ¬ Broken [] := nofun

theorem broken_other_iff {d : Char} {rest : List Char} (hq : isQuote d = false)
    (hd : isHalf d = false) : Broken (d :: rest) ↔ Broken rest := by
  refine ⟨fun h => ?_, .other hq hd⟩
  cases h with
  | unclosed hq' => simp [hq] at hq'
  | quoted hq' => simp [hq] at hq'
  | single hd' => simp [hd] at hd'
  | doubled hd' => simp [hd] at hd'
  | other _ _ hrest => exact hrest

theorem isHalf_of_isQuote {d : Char} (hq : isQuote d) : isHalf d = false := by
  simp only [isQuote, isHalf, Bool.or_eq_true, decide_eq_true_eq] at hq ⊢
  rcases hq with rfl | rfl <;> rfl

theorem broken_quoted_iff {q : Char} {rest text after : List Char} (hq : isQuote q)
    (h : readQuoted q rest = some (text, after)) : Broken (q :: rest) ↔ Broken after := by
  refine ⟨fun hb => ?_, .quoted hq h⟩
  cases hb with
  | unclosed _ h' => simp [h] at h'
  | quoted _ h' hafter =>
    rw [h] at h'
    cases h'
    exact hafter
  | single hd => simp [isHalf_of_isQuote hq] at hd
  | doubled hd => simp [isHalf_of_isQuote hq] at hd
  | other hq' => simp [hq] at hq'

theorem broken_doubled_iff {d : Char} {rest : List Char} (hd : isHalf d) :
    Broken (d :: d :: rest) ↔ Broken rest := by
  refine ⟨fun hb => ?_, .doubled hd⟩
  cases hb with
  | unclosed hq => simp [isHalf_of_isQuote hq] at hd
  | quoted hq => simp [isHalf_of_isQuote hq] at hd
  | single _ h => exact absurd rfl (h rest)
  | doubled _ hrest => exact hrest
  | other _ hd' => simp [hd] at hd'

/-- The rest of a word breaks nothing. -/
theorem broken_dropWhile_iff (rest : List Char) :
    Broken (rest.dropWhile fun d => !isDelimiter d) ↔ Broken rest := by
  induction rest with
  | nil => rfl
  | cons d rest ih =>
    by_cases hd : isDelimiter d
    · rw [List.dropWhile_cons_of_neg (by simp [hd])]
    · rw [List.dropWhile_cons_of_pos (by simp [hd]), ih]
      simp only [isDelimiter, Bool.or_eq_true, decide_eq_true_eq, not_or] at hd
      refine (broken_other_iff ?_ ?_).symm
      · simp [isQuote, hd]
      · simp [isHalf, hd]

@[simp] theorem isOk_map {ε β γ : Type} (f : β → γ) (x : Except ε β) : (x.map f).isOk = x.isOk := by
  cases x <;> rfl

/-- **What is cut into tokens.**  A condition has tokens unless it is broken. -/
theorem tokensOf_isOk {α : Type} (r : Reading α) (cs : List Char) :
    (r.tokensOf cs).isOk ↔ ¬ Broken cs := by
  fun_induction Reading.tokensOf r cs with
  | case1 => exact ⟨fun _ => not_broken_nil, fun _ => rfl⟩
  | case2 d rest hblank ih =>
    simp only [isBlank, Bool.or_eq_true, decide_eq_true_eq] at hblank
    rw [ih, broken_other_iff]
    all_goals rcases hblank with (((rfl | rfl) | rfl) | rfl) | rfl <;> rfl
  | case3 | case4 | case8 | case10 | case12 | case14 =>
    rw [isOk_map, broken_other_iff rfl rfl]
    assumption
  | case7 | case9 | case11 | case13 =>
    -- the second character of the operator is passed over too
    rw [isOk_map, broken_other_iff rfl rfl, broken_other_iff rfl rfl]
    assumption
  | case5 q rest _ _ _ hq hread =>
    exact ⟨fun hok => absurd hok Bool.false_ne_true, fun h => absurd (.unclosed hq hread) h⟩
  | case6 q rest _ _ _ hq text after hread ih =>
    rw [isOk_map, ih, broken_quoted_iff hq hread]
  | case15 | case17 =>
    rw [isOk_map, broken_doubled_iff rfl]
    assumption
  | case16 rest hrest | case18 rest hrest =>
    exact ⟨fun hok => absurd hok Bool.false_ne_true, fun h => absurd (.single rfl hrest) h⟩
  | case19 d rest _ _ _ hq _ _ _ _ hand hor word ih =>
    rw [isOk_map, ih, broken_dropWhile_iff, broken_other_iff]
    · simpa [isQuote] using hq
    · simp [isHalf, hand, hor]

/-! ## The grammar -/

/-- A derivation of a whole list of tokens. -/
structure Derives (d : Disjunction Value) (ts : List (Token Value)) : Prop where
  tokens : d.tokens = ts
  fits : d.Fits []

/-- What the grammar makes of a list of tokens: false if there are none, and the value
of the only derivation if it is not nested too deeply. -/
inductive Denotes : List (Token Value) → Value → Prop where
  | nothing : Denotes [] (.boolean false)
  | derived {ts : List (Token Value)} {d : Disjunction Value} (hts : ts ≠ [])
      (hd : Derives d ts) (hnesting : d.nesting ≤ maxNesting)
      (honly : ∀ d', Derives d' ts → d' = d) : Denotes ts d.value

theorem Derives.eq {d d' : Disjunction Value} {ts : List (Token Value)} (hd : Derives d ts)
    (hd' : Derives d' ts) : d' = d :=
  (d'.unique d (by rw [hd.tokens, hd'.tokens]) hd'.fits hd.fits rfl rfl).1

/-- The tokens of a condition are read exactly if they denote a value. -/
theorem readTokens_eq_ok_iff (c : Context) (ts : List (Token Value)) (v : Value) :
    (((inScope c).readTokens ts).map fun v? => v?.getD (.boolean false)) = .ok v ↔
      Denotes ts v := by
  rw [Reading.readTokens.eq_def]
  split
  · constructor
    · rintro ⟨⟩
      exact .nothing
    · rintro (_ | ⟨hts⟩)
      · rfl
      · exact absurd rfl hts
  · next hts =>
    constructor
    · intro h
      split at h
      · contradiction
      · next hread =>
        cases h
        obtain ⟨d, htokens, hfit, hdepth, rfl⟩ := (ofDepth_sound c maxNesting).disjunction hread
        rw [List.append_nil] at htokens
        exact .derived hts ⟨htokens, hfit⟩ hdepth fun _ => Derives.eq ⟨htokens, hfit⟩
      · contradiction
    · rintro (_ | ⟨-, hd, hnesting, -⟩)
      · exact absurd rfl hts
      · next d =>
        have hread := d.read (c := c) hd.fits hnesting rfl
        rw [List.append_nil, hd.tokens] at hread
        rw [ofDepth_eq, Level.above]
        dsimp only
        rw [hread]
        rfl

/-- **The parser accepts exactly the grammar.**  A condition that is broken is refused.
Any other has tokens, and it has a value exactly if they denote one, which is then its
value; in every other case it is refused. -/
theorem accepts_exactly_the_grammar (source : String) (c : Context) :
    (Broken source.toList → ∃ f, value source c = .error f) ∧
      (¬ Broken source.toList → ∃ ts, (inScope c).tokens source = .ok ts ∧
        (∀ v, value source c = .ok v ↔ Denotes ts v) ∧
        ((∀ v, ¬ Denotes ts v) → ∃ f, value source c = .error f)) := by
  have htokens := tokensOf_isOk (inScope c) source.toList
  rw [value, Reading.read, Reading.tokens]
  cases hts : (inScope c).tokensOf source.toList with
  | error f =>
    rw [hts] at htokens
    exact ⟨fun _ => ⟨f, rfl⟩, fun h => absurd (htokens.mpr h) Bool.false_ne_true⟩
  | ok ts =>
    rw [hts] at htokens
    refine ⟨fun h => absurd h (htokens.mp rfl), fun _ => ⟨ts, rfl, ?_, fun hnone => ?_⟩⟩
    · exact readTokens_eq_ok_iff c ts
    · cases hread : ((inScope c).readTokens ts).map fun v? => v?.getD (.boolean false) with
      | error f => exact ⟨f, rfl⟩
      | ok v => exact absurd ((readTokens_eq_ok_iff c ts v).mp hread) (hnone v)

end Grammar

end ActionTree.Expr
