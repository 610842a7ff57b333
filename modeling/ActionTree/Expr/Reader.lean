import ActionTree.Expr.Token

/-!
# ActionTree.Expr.Reader

What a condition is read as.

1. `or` binds loosest, then `and`, then `not`, then one comparison between two
   operands; `or` and `and` group to the left;
2. an operand is a parenthesis, a literal, or, to the right of a comparison, a
   negation; where none of these stands the operand is missing and counts as
   the empty text;
3. parentheses and negations nest to a depth of `maxNesting`.

There is no tree: an operator is carried out as soon as its operands are read.

The parser goes down one level for every parenthesis and every negation, so the
depth that is left is what its recursion is on.  A level is a pair of parsers,
and is built from the level below it; the lowest has none below it and refuses
to go deeper.
-/

namespace ActionTree.Expr

/-- The operand that stands where none was written. -/
def Reading.missing {α : Type} (r : Reading α) : α := r.constant (.text "")

/-- What a parser gives: what it has read and the tokens after that, or a fault. -/
abbrev Parsing (α : Type) := Except Fault (α × List (Token α))

/-- The parsers of one level of nesting. -/
structure Level (α : Type) where
  disjunction : List (Token α) → Parsing α
  negation : List (Token α) → Parsing α

namespace Level

variable {α : Type} (r : Reading α)

/-- A negation behind its operator, one level down. -/
def readNegated (below : Option (Level α)) (ts : List (Token α)) : Parsing α :=
  match below with
  | none => .error .tooDeep
  | some level => (level.negation ts).map fun (a, rest) => (r.not a, rest)

/-- What stands between parentheses behind the opening one, one level down. -/
def readEnclosed (below : Option (Level α)) (ts : List (Token α)) : Parsing α :=
  match below with
  | none => .error .tooDeep
  | some level =>
    match level.disjunction ts with
    | .error f => .error f
    | .ok (a, .closeParen :: rest) => .ok (a, rest)
    | .ok _ => .error .missingParen

/-- An operand. -/
def readOperand (below : Option (Level α)) : List (Token α) → Parsing α
  | .openParen :: ts => readEnclosed below ts
  | .operand a :: ts => .ok (a, ts)
  | .not :: ts => readNegated r below ts
  | ts => .ok (r.missing, ts)

/-- One comparison, or an operand alone. -/
def readComparison (below : Option (Level α)) (ts : List (Token α)) : Parsing α :=
  match readOperand r below ts with
  | .error f => .error f
  | .ok (a, .compare op :: rest) =>
    (readOperand r below rest).map fun (b, rest) => (r.compare op a b, rest)
  | .ok (a, rest) => .ok (a, rest)

/-- A negation, or a comparison. -/
def readNegation (below : Option (Level α)) : List (Token α) → Parsing α
  | .not :: ts => readNegated r below ts
  | ts => readComparison r below ts

/-- The operands of `and` behind the first one. -/
def moreConjuncts (below : Option (Level α)) : (fuel : Nat) → α → List (Token α) → Parsing α
  | fuel + 1, a, .and :: ts =>
    match readNegation r below ts with
    | .error f => .error f
    | .ok (b, rest) => moreConjuncts below fuel (r.and a b) rest
  | _, a, ts => .ok (a, ts)

/-- Negations with `and` between them. -/
def readConjunction (below : Option (Level α)) (ts : List (Token α)) : Parsing α :=
  match readNegation r below ts with
  | .error f => .error f
  | .ok (a, rest) => moreConjuncts r below rest.length a rest

/-- The operands of `or` behind the first one. -/
def moreDisjuncts (below : Option (Level α)) : (fuel : Nat) → α → List (Token α) → Parsing α
  | fuel + 1, a, .or :: ts =>
    match readConjunction r below ts with
    | .error f => .error f
    | .ok (b, rest) => moreDisjuncts below fuel (r.or a b) rest
  | _, a, ts => .ok (a, ts)

/-- Conjunctions with `or` between them. -/
def readDisjunction (below : Option (Level α)) (ts : List (Token α)) : Parsing α :=
  match readConjunction r below ts with
  | .error f => .error f
  | .ok (a, rest) => moreDisjuncts r below rest.length a rest

/-- The level above another one. -/
def above (below : Option (Level α)) : Level α := ⟨readDisjunction r below, readNegation r below⟩

/-- The level that has `depth` more below it. -/
def ofDepth : (depth : Nat) → Level α
  | 0 => above r none
  | depth + 1 => above r (some (ofDepth depth))

end Level

namespace Reading

variable {α : Type} (r : Reading α)

/-- What a list of tokens is read as; `none` for no tokens at all. -/
def readTokens (ts : List (Token α)) : Except Fault (Option α) :=
  match ts with
  | [] => .ok none
  | ts =>
    match (Level.ofDepth r maxNesting).disjunction ts with
    | .error f => .error f
    | .ok (a, []) => .ok (some a)
    | .ok _ => .error .trailingInput

/-- What a condition is read as. -/
def read (source : String) : Except Fault (Option α) :=
  match r.tokens source with
  | .error f => .error f
  | .ok ts => r.readTokens ts

end Reading

end ActionTree.Expr
