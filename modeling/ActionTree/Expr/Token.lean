import ActionTree.Template
import ActionTree.Double.Decimal

/-!
# ActionTree.Expr.Token

Conditions as tokens.

1. parentheses, `!`, `&&`, `||`, and the comparisons are tokens wherever they
   stand; blanks separate tokens and are none;
2. a quoted text is an operand; a backslash in it makes `n` a line break, `t` a
   tab, and any other character itself;
3. every other run of characters is a word: an operator or a constant if it
   spells one, an operand otherwise;
4. an operand may hold references.  A word that is one reference and nothing
   else stands for the field's value; in any other place the field's text is
   spliced in.

What operands and operators are read as is left open: a `Reading` says it.  The
one that programs go by looks every reference up at once (`Expr.inScope`), so the
tokens of a condition hold the values of fields.
-/

namespace ActionTree.Expr

open Text

/-! ## Types -/

/-- A comparison. -/
inductive Comparison where
  | eq | ne | lt | le | gt | ge
deriving DecidableEq, Repr

/-- What the parts of a condition are read as: a constant, a word that is one
reference, a text with references in it, and the operators. -/
structure Reading (α : Type) where
  constant : Value → α
  reference : String → α
  splice : List Char → α
  not : α → α
  and : α → α → α
  or : α → α → α
  compare : Comparison → α → α → α

/-- A token of a condition. -/
inductive Token (α : Type) where
  | openParen
  | closeParen
  | not
  | and
  | or
  | compare (op : Comparison)
  | operand (a : α)
deriving Repr

/-- Why a condition is not well formed. -/
inductive Fault where
  | unterminatedText
  | unexpectedCharacter
  | trailingInput
  | tooDeep
  | missingParen
deriving DecidableEq, Repr

/-- How deep parentheses and negations may be nested. -/
def maxNesting : Nat := 64

/-- The wording of a fault in a condition. -/
def Fault.message (source : String) : Fault → String
  | unterminatedText => "unterminated string literal in `" ++ source ++ "`"
  | unexpectedCharacter => "unexpected character in `" ++ source ++ "`"
  | trailingInput => "unexpected trailing input in `" ++ source ++ "`"
  | tooDeep => "nesting deeper than " ++ toString maxNesting ++ " levels"
  | missingParen => "missing closing parenthesis"

/-! ## Characters -/

/-- A blank between tokens: ASCII white space only. -/
def isBlank (c : Char) : Bool :=
  c = ' ' || c = '\t' || c = '\n' || c = '\x0c' || c = '\r'

/-- A character that ends a word. -/
def isDelimiter (c : Char) : Bool :=
  isBlank c || c = '(' || c = ')' || c = '!' || c = '=' || c = '<' || c = '>' || c = '"' ||
    c = '\'' || c = '&' || c = '|'

/-! ## Operands -/

/-- The name in a word that is one reference and nothing else. -/
def loneReference? (word : List Char) : Option (List Char) :=
  match word with
  | '{' :: rest =>
    match stripEndChars ['}'] rest with
    | some name => if isName name then some name else none
    | none => none
  | _ => none

/-- The operand of a word that holds an opening brace. -/
def Reading.ofReferences {α : Type} (r : Reading α) (word : List Char) : α :=
  match loneReference? word with
  | some name => r.reference (String.ofList name)
  | none => r.splice word

/-- The constant of a word that is no operator: a number if it reads as a
finite one, a text otherwise. -/
def wordConstant (word : List Char) : Value :=
  match readWidth .wide word with
  | some (.finite x) => Value.ofDouble (.finite x)
  | _ => .text (String.ofList word)

/-- The token of a word without braces.  The names of operators and constants
are read in any case. -/
def Reading.plainWord {α : Type} (r : Reading α) (word : List Char) : Token α :=
  let name := String.ofList (word.map Char.toLower)
  if name = "and" then .and
  else if name = "or" then .or
  else if name = "not" then .not
  else if name = "true" then .operand (r.constant (.boolean true))
  else if name = "false" then .operand (r.constant (.boolean false))
  else if name = "null" then .operand (r.constant .null)
  else .operand (r.constant (wordConstant word))

/-- The token of a word. -/
def Reading.word {α : Type} (r : Reading α) (word : List Char) : Token α :=
  if word.contains '{' then .operand (r.ofReferences word) else r.plainWord word

/-! ## Quoted texts -/

/-- What a character behind a backslash stands for. -/
def unescape (c : Char) : Char := if c = 'n' then '\n' else if c = 't' then '\t' else c

/-- The characters up to the closing quote, and those behind it. -/
def readQuoted (quote : Char) : List Char → Option (List Char × List Char)
  | [] => none
  | '\\' :: c :: rest =>
    (readQuoted quote rest).map fun (text, after) => (unescape c :: text, after)
  | ['\\'] => none
  | c :: rest =>
    if c = quote then some ([], rest)
    else (readQuoted quote rest).map fun (text, after) => (c :: text, after)

theorem readQuoted_length {quote : Char} {cs text after : List Char}
    (h : readQuoted quote cs = some (text, after)) : after.length < cs.length := by
  fun_induction readQuoted quote cs generalizing text with
  | case1 => simp at h
  | case2 c rest ih =>
    simp only [Option.map_eq_some_iff, Prod.mk.injEq, Prod.exists] at h
    obtain ⟨t, a, ht, _, ha⟩ := h
    subst ha
    have := ih ht
    simp only [List.length_cons]
    omega
  | case3 => simp at h
  | case4 rest =>
    simp only [Option.some.injEq, Prod.mk.injEq] at h
    simp [← h.2]
  | case5 c rest _ _ _ ih =>
    simp only [Option.map_eq_some_iff, Prod.mk.injEq, Prod.exists] at h
    obtain ⟨t, a, ht, _, ha⟩ := h
    subst ha
    have := ih ht
    simp only [List.length_cons]
    omega

/-! ## Tokens -/

/-- The tokens of a condition, or the first fault. -/
def Reading.tokensOf {α : Type} (r : Reading α) (cs : List Char) :
    Except Fault (List (Token α)) :=
  match cs with
  | [] => .ok []
  | c :: rest =>
    if isBlank c then r.tokensOf rest
    else if c = '(' then (r.tokensOf rest).map (Token.openParen :: ·)
    else if c = ')' then (r.tokensOf rest).map (Token.closeParen :: ·)
    else if c = '"' || c = '\'' then
      match _h : readQuoted c rest with
      | none => .error .unterminatedText
      | some (text, after) => (r.tokensOf after).map (Token.operand (r.splice text) :: ·)
    else if c = '=' then
      match rest with
      | '=' :: rs => (r.tokensOf rs).map (Token.compare .eq :: ·)
      | rs => (r.tokensOf rs).map (Token.compare .eq :: ·)
    else if c = '<' then
      match rest with
      | '=' :: rs => (r.tokensOf rs).map (Token.compare .le :: ·)
      | rs => (r.tokensOf rs).map (Token.compare .lt :: ·)
    else if c = '>' then
      match rest with
      | '=' :: rs => (r.tokensOf rs).map (Token.compare .ge :: ·)
      | rs => (r.tokensOf rs).map (Token.compare .gt :: ·)
    else if c = '!' then
      match rest with
      | '=' :: rs => (r.tokensOf rs).map (Token.compare .ne :: ·)
      | rs => (r.tokensOf rs).map (Token.not :: ·)
    else if c = '&' then
      match rest with
      | '&' :: rs => (r.tokensOf rs).map (Token.and :: ·)
      | _ => .error .unexpectedCharacter
    else if c = '|' then
      match rest with
      | '|' :: rs => (r.tokensOf rs).map (Token.or :: ·)
      | _ => .error .unexpectedCharacter
    else
      let word := c :: rest.takeWhile fun d => !isDelimiter d
      (r.tokensOf (rest.dropWhile fun d => !isDelimiter d)).map (r.word word :: ·)
termination_by cs.length
decreasing_by
  all_goals simp only [List.length_cons]
  all_goals try omega
  · have := readQuoted_length ‹readQuoted c rest = some (text, after)›
    omega
  · have := (List.dropWhile_suffix (fun d => !isDelimiter d) (l := rest)).length_le
    omega

/-- The tokens of a condition. -/
def Reading.tokens {α : Type} (r : Reading α) (source : String) : Except Fault (List (Token α)) :=
  r.tokensOf source.toList

end ActionTree.Expr
