import ActionTree.Expr.Meaning

/-!
# ActionTree.Proofs.Derivation

The grammar of conditions.

1. a *derivation* says how a list of tokens is made up: disjunctions of conjunctions
   of negations, comparisons between operands.  It is a tree with a type for every
   symbol of the grammar, so what the grammar rules out cannot be written down;
2. an operand may be missing, but only where none could stand: in front of a
   parenthesis, a literal or a negation a derivation does not *fit*;
3. a list of tokens has at most one derivation (`Disjunction.unique`).

Nothing here knows of the parser.  What comes behind a phrase decides where the
phrase ends, and all that matters of it is how tightly it binds (`grip`).
-/

namespace ActionTree.Expr

namespace Grammar

/-! ## Derivations -/

mutual

/-- Conjunctions with `or` between them. -/
inductive Disjunction (α : Type) where
  | mk (first : Conjunction α) (more : Disjuncts α)

/-- What follows the first conjunction. -/
inductive Disjuncts (α : Type) where
  | done
  | or (next : Conjunction α) (more : Disjuncts α)

/-- Negations with `and` between them. -/
inductive Conjunction (α : Type) where
  | mk (first : Negation α) (more : Conjuncts α)

/-- What follows the first negation. -/
inductive Conjuncts (α : Type) where
  | done
  | and (next : Negation α) (more : Conjuncts α)

/-- A negation, or a phrase without one. -/
inductive Negation (α : Type) where
  | not (n : Negation α)
  | plain (c : Relation α)

/-- An operand alone, or one comparison. -/
inductive Relation (α : Type) where
  | alone (a : Operand α)
  | compare (a : Operand α) (op : Comparison) (b : RightOperand α)

/-- An operand that may stand anywhere. -/
inductive Operand (α : Type) where
  | enclosed (d : Disjunction α)
  | literal (a : α)
  | missing

/-- To the right of a comparison a negation is an operand too. -/
inductive RightOperand (α : Type) where
  | plain (o : Operand α)
  | negated (n : Negation α)

end

variable {α : Type}

/-! ## Tokens -/

mutual

/-- The tokens of a derivation. -/
def Disjunction.tokens : Disjunction α → List (Token α)
  | .mk c ds => c.tokens ++ ds.tokens

def Disjuncts.tokens : Disjuncts α → List (Token α)
  | .done => []
  | .or c ds => .or :: (c.tokens ++ ds.tokens)

def Conjunction.tokens : Conjunction α → List (Token α)
  | .mk n cs => n.tokens ++ cs.tokens

def Conjuncts.tokens : Conjuncts α → List (Token α)
  | .done => []
  | .and n cs => .and :: (n.tokens ++ cs.tokens)

def Negation.tokens : Negation α → List (Token α)
  | .not n => .not :: n.tokens
  | .plain c => c.tokens

def Relation.tokens : Relation α → List (Token α)
  | .alone a => a.tokens
  | .compare a op b => a.tokens ++ .compare op :: b.tokens

def Operand.tokens : Operand α → List (Token α)
  | .enclosed d => .openParen :: (d.tokens ++ [.closeParen])
  | .literal a => [.operand a]
  | .missing => []

def RightOperand.tokens : RightOperand α → List (Token α)
  | .plain o => o.tokens
  | .negated n => .not :: n.tokens

end

/-! ## Missing operands -/

/-- Whether an operand begins here. -/
def beginsOperand : List (Token α) → Bool
  | .openParen :: _ | .operand _ :: _ | .not :: _ => true
  | _ => false

mutual

/-- No operand of a derivation in front of `rest` is missing where one begins. -/
def Disjunction.Fits : Disjunction α → List (Token α) → Prop
  | .mk c ds, rest => c.Fits (ds.tokens ++ rest) ∧ ds.Fits rest

def Disjuncts.Fits : Disjuncts α → List (Token α) → Prop
  | .done, _ => True
  | .or c ds, rest => c.Fits (ds.tokens ++ rest) ∧ ds.Fits rest

def Conjunction.Fits : Conjunction α → List (Token α) → Prop
  | .mk n cs, rest => n.Fits (cs.tokens ++ rest) ∧ cs.Fits rest

def Conjuncts.Fits : Conjuncts α → List (Token α) → Prop
  | .done, _ => True
  | .and n cs, rest => n.Fits (cs.tokens ++ rest) ∧ cs.Fits rest

def Negation.Fits : Negation α → List (Token α) → Prop
  | .not n, rest => n.Fits rest
  | .plain c, rest => c.Fits rest

def Relation.Fits : Relation α → List (Token α) → Prop
  | .alone a, rest => a.Fits rest
  | .compare a op b, rest => a.Fits (.compare op :: (b.tokens ++ rest)) ∧ b.Fits rest

def Operand.Fits : Operand α → List (Token α) → Prop
  | .enclosed d, rest => d.Fits (.closeParen :: rest)
  | .literal _, _ => True
  | .missing, rest => beginsOperand rest = false

def RightOperand.Fits : RightOperand α → List (Token α) → Prop
  | .plain o, rest => o.Fits rest
  | .negated n, rest => n.Fits rest

end

/-! ## Nesting -/

mutual

/-- The greatest number of parentheses and negations that a place of a derivation
is inside of. -/
def Disjunction.nesting : Disjunction α → Nat
  | .mk c ds => max c.nesting ds.nesting

def Disjuncts.nesting : Disjuncts α → Nat
  | .done => 0
  | .or c ds => max c.nesting ds.nesting

def Conjunction.nesting : Conjunction α → Nat
  | .mk n cs => max n.nesting cs.nesting

def Conjuncts.nesting : Conjuncts α → Nat
  | .done => 0
  | .and n cs => max n.nesting cs.nesting

def Negation.nesting : Negation α → Nat
  | .not n => n.nesting + 1
  | .plain c => c.nesting

def Relation.nesting : Relation α → Nat
  | .alone a => a.nesting
  | .compare a _ b => max a.nesting b.nesting

def Operand.nesting : Operand α → Nat
  | .enclosed d => d.nesting + 1
  | .literal _ => 0
  | .missing => 0

def RightOperand.nesting : RightOperand α → Nat
  | .plain o => o.nesting
  | .negated n => n.nesting + 1

end

/-! ## Values -/

mutual

/-- The value of a derivation whose operands hold values.  `or` and `and` group to
the left, and every operator gives a boolean. -/
def Disjunction.value : Disjunction Value → Value
  | .mk c ds => ds.valueAfter c.value

/-- The value when `v` stands to the left. -/
def Disjuncts.valueAfter (v : Value) : Disjuncts Value → Value
  | .done => v
  | .or c ds => ds.valueAfter (.boolean (v.truthy || c.value.truthy))

def Conjunction.value : Conjunction Value → Value
  | .mk n cs => cs.valueAfter n.value

def Conjuncts.valueAfter (v : Value) : Conjuncts Value → Value
  | .done => v
  | .and n cs => cs.valueAfter (.boolean (v.truthy && n.value.truthy))

def Negation.value : Negation Value → Value
  | .not n => .boolean !n.value.truthy
  | .plain c => c.value

def Relation.value : Relation Value → Value
  | .alone a => a.value
  | .compare a op b => .boolean (compareValues op a.value b.value)

def Operand.value : Operand Value → Value
  | .enclosed d => d.value
  | .literal v => v
  | .missing => .text ""

def RightOperand.value : RightOperand Value → Value
  | .plain o => o.value
  | .negated n => .boolean !n.value.truthy

end

/-! ## What comes next -/

/-- How tightly the next token binds to what stands in front of it. -/
def grip : List (Token α) → Nat
  | [] | .closeParen :: _ => 0
  | .or :: _ => 1
  | .and :: _ => 2
  | .compare _ :: _ => 3
  | _ => 4

theorem grip_disjuncts {ds : Disjuncts α} {rest : List (Token α)} (hrest : grip rest = 0) :
    grip (ds.tokens ++ rest) ≤ 1 := by
  cases ds with
  | done => simp [Disjuncts.tokens, hrest]
  | or c ds => simp [Disjuncts.tokens, grip]

theorem grip_conjuncts {cs : Conjuncts α} {rest : List (Token α)} (hrest : grip rest ≤ 1) :
    grip (cs.tokens ++ rest) ≤ 2 := by
  cases cs with
  | done =>
    rw [Conjuncts.tokens, List.nil_append]
    omega
  | and n cs => simp [Conjuncts.tokens, grip]

/-! ## At most one derivation -/

/-- A phrase that does not begin with a negation begins with no negation's token. -/
theorem Operand.tokens_append_ne_not {o : Operand α} {rest us : List (Token α)}
    (hfit : o.Fits rest) : o.tokens ++ rest ≠ .not :: us := by
  cases o with
  | enclosed d => simp [Operand.tokens]
  | literal a => simp [Operand.tokens]
  | missing =>
    intro h
    rw [Operand.tokens, List.nil_append] at h
    rw [Operand.Fits, h] at hfit
    contradiction

theorem Relation.tokens_append_ne_not {c : Relation α} {rest us : List (Token α)}
    (hfit : c.Fits rest) : c.tokens ++ rest ≠ .not :: us := by
  cases c with
  | alone a => exact Operand.tokens_append_ne_not hfit
  | compare a op b =>
    rw [Relation.tokens, List.append_assoc]
    exact Operand.tokens_append_ne_not hfit.1

mutual

/-- **At most one derivation.**  Two derivations of the same tokens, with what comes
behind them, are the same. -/
theorem Disjunction.unique (d d' : Disjunction α) {rest rest' : List (Token α)}
    (h : d.tokens ++ rest = d'.tokens ++ rest') (hd : d.Fits rest) (hd' : d'.Fits rest')
    (hr : grip rest = 0) (hr' : grip rest' = 0) : d = d' ∧ rest = rest' := by
  obtain ⟨c, ds⟩ := d
  obtain ⟨c', ds'⟩ := d'
  simp only [Disjunction.tokens, List.append_assoc] at h
  obtain ⟨rfl, hds⟩ := c.unique c' h hd.1 hd'.1 (grip_disjuncts hr) (grip_disjuncts hr')
  obtain ⟨rfl, hrest⟩ := ds.unique ds' hds hd.2 hd'.2 hr hr'
  exact ⟨rfl, hrest⟩
termination_by structural d

theorem Disjuncts.unique (ds ds' : Disjuncts α) {rest rest' : List (Token α)}
    (h : ds.tokens ++ rest = ds'.tokens ++ rest') (hd : ds.Fits rest) (hd' : ds'.Fits rest')
    (hr : grip rest = 0) (hr' : grip rest' = 0) : ds = ds' ∧ rest = rest' := by
  cases ds with
  | done =>
    cases ds' with
    | done => exact ⟨rfl, h⟩
    | or c' ds' =>
      rw [Disjuncts.tokens, List.nil_append] at h
      rw [h] at hr
      contradiction
  | or c ds =>
    cases ds' with
    | done =>
      rw [Disjuncts.tokens, Disjuncts.tokens, List.nil_append] at h
      rw [← h] at hr'
      contradiction
    | or c' ds' =>
      simp only [Disjuncts.tokens, List.cons_append, List.append_assoc] at h
      obtain ⟨rfl, hds⟩ := c.unique c' (List.cons.inj h).2 hd.1 hd'.1 (grip_disjuncts hr)
        (grip_disjuncts hr')
      obtain ⟨rfl, hrest⟩ := ds.unique ds' hds hd.2 hd'.2 hr hr'
      exact ⟨rfl, hrest⟩
termination_by structural ds

theorem Conjunction.unique (c c' : Conjunction α) {rest rest' : List (Token α)}
    (h : c.tokens ++ rest = c'.tokens ++ rest') (hc : c.Fits rest) (hc' : c'.Fits rest')
    (hr : grip rest ≤ 1) (hr' : grip rest' ≤ 1) : c = c' ∧ rest = rest' := by
  obtain ⟨n, cs⟩ := c
  obtain ⟨n', cs'⟩ := c'
  simp only [Conjunction.tokens, List.append_assoc] at h
  obtain ⟨rfl, hcs⟩ := n.unique n' h hc.1 hc'.1 (grip_conjuncts hr) (grip_conjuncts hr')
  obtain ⟨rfl, hrest⟩ := cs.unique cs' hcs hc.2 hc'.2 hr hr'
  exact ⟨rfl, hrest⟩
termination_by structural c

theorem Conjuncts.unique (cs cs' : Conjuncts α) {rest rest' : List (Token α)}
    (h : cs.tokens ++ rest = cs'.tokens ++ rest') (hc : cs.Fits rest) (hc' : cs'.Fits rest')
    (hr : grip rest ≤ 1) (hr' : grip rest' ≤ 1) : cs = cs' ∧ rest = rest' := by
  cases cs with
  | done =>
    cases cs' with
    | done => exact ⟨rfl, h⟩
    | and n' cs' =>
      rw [Conjuncts.tokens, List.nil_append] at h
      rw [h] at hr
      simp [Conjuncts.tokens, grip] at hr
  | and n cs =>
    cases cs' with
    | done =>
      rw [Conjuncts.tokens, Conjuncts.tokens, List.nil_append] at h
      rw [← h] at hr'
      simp [grip] at hr'
    | and n' cs' =>
      simp only [Conjuncts.tokens, List.cons_append, List.append_assoc] at h
      obtain ⟨rfl, hcs⟩ := n.unique n' (List.cons.inj h).2 hc.1 hc'.1 (grip_conjuncts hr)
        (grip_conjuncts hr')
      obtain ⟨rfl, hrest⟩ := cs.unique cs' hcs hc.2 hc'.2 hr hr'
      exact ⟨rfl, hrest⟩
termination_by structural cs

theorem Negation.unique (n n' : Negation α) {rest rest' : List (Token α)}
    (h : n.tokens ++ rest = n'.tokens ++ rest') (hn : n.Fits rest) (hn' : n'.Fits rest')
    (hr : grip rest ≤ 2) (hr' : grip rest' ≤ 2) : n = n' ∧ rest = rest' := by
  cases n with
  | not n =>
    cases n' with
    | not n' =>
      simp only [Negation.tokens, List.cons_append] at h
      obtain ⟨rfl, hrest⟩ := n.unique n' (List.cons.inj h).2 hn hn' hr hr'
      exact ⟨rfl, hrest⟩
    | plain c' =>
      simp only [Negation.tokens, List.cons_append] at h
      exact absurd h.symm (Relation.tokens_append_ne_not hn')
  | plain c =>
    cases n' with
    | not n' =>
      simp only [Negation.tokens, List.cons_append] at h
      exact absurd h (Relation.tokens_append_ne_not hn)
    | plain c' =>
      obtain ⟨rfl, hrest⟩ := c.unique c' h hn hn' hr hr'
      exact ⟨rfl, hrest⟩
termination_by structural n

theorem Relation.unique (c c' : Relation α) {rest rest' : List (Token α)}
    (h : c.tokens ++ rest = c'.tokens ++ rest') (hc : c.Fits rest) (hc' : c'.Fits rest')
    (hr : grip rest ≤ 2) (hr' : grip rest' ≤ 2) : c = c' ∧ rest = rest' := by
  cases c with
  | alone a =>
    cases c' with
    | alone a' =>
      obtain ⟨rfl, hrest⟩ := a.unique a' h hc hc'
      exact ⟨rfl, hrest⟩
    | compare a' op' b' =>
      simp only [Relation.tokens, List.append_assoc] at h
      obtain ⟨-, hrest⟩ := a.unique a' h hc hc'.1
      rw [hrest] at hr
      simp [grip] at hr
  | compare a op b =>
    cases c' with
    | alone a' =>
      simp only [Relation.tokens, List.append_assoc] at h
      obtain ⟨-, hrest⟩ := a.unique a' h hc.1 hc'
      rw [← hrest] at hr'
      simp [grip] at hr'
    | compare a' op' b' =>
      simp only [Relation.tokens, List.append_assoc] at h
      obtain ⟨rfl, hb⟩ := a.unique a' h hc.1 hc'.1
      obtain ⟨hop, hb⟩ := List.cons.inj hb
      obtain ⟨rfl, hrest⟩ := b.unique b' hb hc.2 hc'.2 hr hr'
      obtain rfl := Token.compare.inj hop
      exact ⟨rfl, hrest⟩
termination_by structural c

theorem Operand.unique (o o' : Operand α) {rest rest' : List (Token α)}
    (h : o.tokens ++ rest = o'.tokens ++ rest') (ho : o.Fits rest) (ho' : o'.Fits rest') :
    o = o' ∧ rest = rest' := by
  cases o with
  | enclosed d =>
    cases o' with
    | enclosed d' =>
      simp only [Operand.tokens, List.cons_append, List.append_assoc, List.nil_append] at h
      obtain ⟨rfl, hrest⟩ := d.unique d' (List.cons.inj h).2 ho ho' rfl rfl
      exact ⟨rfl, (List.cons.inj hrest).2⟩
    | literal a' => simp [Operand.tokens] at h
    | missing =>
      simp only [Operand.tokens, List.cons_append, List.nil_append] at h
      rw [Operand.Fits, ← h] at ho'
      contradiction
  | literal a =>
    cases o' with
    | enclosed d' => simp [Operand.tokens] at h
    | literal a' =>
      simp only [Operand.tokens, List.cons_append, List.nil_append, List.cons.injEq,
        Token.operand.injEq] at h
      exact ⟨by rw [h.1], h.2⟩
    | missing =>
      simp only [Operand.tokens, List.cons_append, List.nil_append] at h
      rw [Operand.Fits, ← h] at ho'
      contradiction
  | missing =>
    cases o' with
    | missing => exact ⟨rfl, h⟩
    | _ =>
      simp only [Operand.tokens, List.cons_append, List.nil_append] at h
      rw [Operand.Fits, h] at ho
      contradiction
termination_by structural o

theorem RightOperand.unique (b b' : RightOperand α) {rest rest' : List (Token α)}
    (h : b.tokens ++ rest = b'.tokens ++ rest') (hb : b.Fits rest) (hb' : b'.Fits rest')
    (hr : grip rest ≤ 2) (hr' : grip rest' ≤ 2) : b = b' ∧ rest = rest' := by
  cases b with
  | plain o =>
    cases b' with
    | plain o' =>
      obtain ⟨rfl, hrest⟩ := o.unique o' h hb hb'
      exact ⟨rfl, hrest⟩
    | negated n' =>
      simp only [RightOperand.tokens, List.cons_append] at h
      exact absurd h (Operand.tokens_append_ne_not hb)
  | negated n =>
    cases b' with
    | plain o' =>
      simp only [RightOperand.tokens, List.cons_append] at h
      exact absurd h.symm (Operand.tokens_append_ne_not hb')
    | negated n' =>
      simp only [RightOperand.tokens, List.cons_append] at h
      obtain ⟨rfl, hrest⟩ := n.unique n' (List.cons.inj h).2 hb hb' hr hr'
      exact ⟨rfl, hrest⟩
termination_by structural b

end

end Grammar

end ActionTree.Expr
