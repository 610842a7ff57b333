import ActionTree.Pattern.Reader.Brackets
import ActionTree.Unicode.Derived

/-!
# ActionTree.Pattern.Reader.Whole

Whole patterns.

1. a pattern is a choice between rows of parts, and parentheses hold a pattern;
2. a repetition takes the part in front of it;
3. open groups are kept on a stack, so their depth is bounded by nothing but the
   pattern's length.
-/

namespace ActionTree.Pattern

open Text

/-! ## Flags -/

/-- The flag of a letter. -/
def flag? : Char → Option Flag
  | 'i' => some .ignoreCase
  | 'm' => some .lines
  | 's' => some .dotAll
  | 'U' => some .swapGreed
  | 'u' => some .unicode
  | 'R' => some .returns
  | 'x' => some .verbose
  | _ => none

/-- The flags up to a colon or a closing parenthesis, the last one first; `seen` has the
letters and hyphens before, the last one first. -/
def readFlagsOf : (fuel : Nat) → FlagChange → (seen : List (Char × Span)) → (on : Bool) →
    Parse (FlagChange × List (Char × Span))
  | 0, change, seen, _ => return (change, seen)
  | fuel + 1, change, seen, on => do
    match ← peek with
    | none | some ':' | some ')' => return (change, seen)
    | some c => do
      let span ← nextSpan
      match c = '-' || (flag? c).isSome, List.lookup c seen with
      | false, _ => refuse .flagUnknown span none
      | true, some earlier =>
        refuse (if c = '-' then .flagNegatedTwice else .flagTwice) span (some earlier)
      | true, none => do
        bump
        if ← atEnd then refuse .flagEnd (← here) none
        else
          let change := match flag? c with
            | some f => (f, on) :: change
            | none => change
          readFlagsOf fuel change ((c, span) :: seen) (on && c != '-')

/-- The flags up to a colon or a closing parenthesis, and whether there was anything. -/
def readFlags : Parse (FlagChange × Bool) := do
  let (change, seen) ← readFlagsOf (← remaining) [] [] true
  match seen with
  | ('-', span) :: _ => refuse .flagDangling span none
  | _ => return (change.reverse, !seen.isEmpty)

/-- Passes over blanks and comments from here on, or no longer, if the flags say so. -/
def applyVerbose (change : FlagChange) : Parse Unit :=
  modify fun r => { r with verbose := (change.lookup .verbose).getD r.verbose }

/-! ## Groups -/

/-- Whether a character may stand in the name of a group. -/
def isNameChar (first : Bool) (c : Char) : Bool :=
  c = '_' || Unicode.alphabetic.has c.toNat ||
    (!first && (Unicode.numbers.has c.toNat || c = '.' || c = '[' || c = ']'))

/-- The name of a group up to its closing bracket. -/
def readNameChars : (fuel : Nat) → (first : Bool) → Parse (List Char)
  | 0, _ => return []
  | fuel + 1, first => do
    match ← peek with
    | none | some '>' => return []
    | some c =>
      if isNameChar first c then
        bump
        return c :: (← readNameChars fuel false)
      else refuse .nameCharacter (← nextSpan) none

/-- The name of a group. -/
def readGroupName : Parse Unit := do
  let start ← place
  let name := String.ofList (← readNameChars (← remaining) true)
  if ← atEnd then refuse .nameEnd (← here) none
  else
    let span ← since start
    bump
    if name.isEmpty then refuse .nameEmpty (Span.empty start) none
    else
      match List.lookup name (← get).names with
      | some earlier => refuse .nameTwice span (some earlier)
      | none => modify fun r => { r with names := (name, span) :: r.names }

/-- A group that counts. -/
def countGroup : Parse GroupKind := do
  let n := (← get).groups + 1
  modify fun r => { r with groups := n }
  return .numbered n

/-- Whether the start of a condition on what surrounds comes next. -/
def passLookAround : Parse Bool := do
  if ← passIf "?=" then return true
  else if ← passIf "?!" then return true
  else if ← passIf "?<=" then return true
  else passIf "?<!"

/-- What an opening parenthesis begins: a group, or flags for what follows. -/
inductive GroupStart where
  | group (kind : GroupKind)
  | flags (change : FlagChange)

/-- The start of a group. -/
def readGroupStart (opened : Span) : Parse GroupStart := do
  bump
  skipSpace
  if ← passLookAround then refuse .lookAround ⟨opened.start, ← place⟩ none
  else
    let inner ← here
    let hasName ← (do if ← passIf "?P<" then return true else passIf "?<")
    if hasName then
      let kind ← countGroup
      readGroupName
      return .group kind
    else if ← passIf "?" then
      if ← atEnd then refuse .groupUnclosed opened none
      else
        let (change, any) ← readFlags
        let closed := (← peek) == some ')'
        bump
        if closed then
          if any then return .flags change else refuse .nothingToRepeat inner none
        else return .group (.plain change)
    else return .group (← countGroup)

/-! ## Repetitions -/

/-- The bounds of a repetition, and whether it is greedy. -/
structure Bounds where
  least : Nat
  most : Option Nat
  greedy : Bool := true

/-- A count that must be there. -/
def required (count : Except Fault Nat) : Parse Nat :=
  match count with
  | .ok n => pure n
  | .error f => throw f

/-- Passes a question mark; whether there was none. -/
def readGreed : Parse Bool := do
  if (← peek) == some '?' then
    bump
    return false
  else return true

/-- The bounds in braces; the reader is at the opening one. -/
def readBounds : Parse Bounds := do
  let start ← place
  let unclosed {α : Type} : Parse α := do refuse .countUnclosed (← since start) none
  if ← advance then
    let least ← readCount
    if ← atEnd then unclosed
    else
      let b ← (do
        if (← peek) == some ',' then
          if ← advance then
            if (← peek) != some '\x7d' then
              let least ← required least
              let most ← required (← readCount)
              return ⟨least, some most, true⟩
            else return ⟨← required least, none, true⟩
          else unclosed
        else
          let n ← required least
          return ⟨n, some n, true⟩ : Parse Bounds)
      if (← peek) != some '\x7d' then unclosed
      else
        let greedy ← (do if ← advance then readGreed else return true)
        if b.most.any fun most => most < b.least then
          refuse .countOrder (← since start) none
        else return { b with greedy := greedy }
  else unclosed

/-- The bounds of a repetition, written as one character or in braces. -/
def readRepetition (c : Char) : Parse Bounds := do
  if c = '\x7b' then readBounds
  else
    bump
    let greedy ← readGreed
    return match c with
      | '?' => ⟨0, some 1, greedy⟩
      | '*' => ⟨0, none, greedy⟩
      | _ => ⟨1, none, greedy⟩

/-- Whether a repetition can take a part. -/
def Tree.isRepeatable : Tree → Bool
  | empty _ | flags _ _ => false
  | _ => true

/-! ## Parts -/

/-- A part of a pattern as a tree. -/
def Part.toTree : Part → Tree
  | literal l => .literal l
  | set c => .charClass c
  | anchor s a => .anchor s a
  | dot s => .dot s

/-- A single part of a pattern outside classes. -/
def readPart (c : Char) : Parse Tree := do
  let span ← nextSpan
  match c with
  | '\\' => return (← readEscape).toTree
  | '.' => do
    bump
    return .dot span
  | '^' => do
    bump
    return .anchor span .lineStart
  | '$' => do
    bump
    return .anchor span .lineEnd
  | c => do
    bump
    return .literal ⟨span, c, false⟩

/-! ## Levels -/

/-- What was read between two parentheses: where the first row and the last one began,
the parts of the last row, the last one first, and the rows before it, the last one
first. -/
structure Level where
  first : Place
  start : Place := first
  items : List Tree := []
  rows : List Tree := []

/-- A level with one more part. -/
def Level.push (l : Level) (t : Tree) : Level := { l with items := t :: l.items }

/-- The last row of a level, which ends at a place. -/
def Level.row (l : Level) (stop : Place) : Tree := .ofItems ⟨l.start, stop⟩ l.items

/-- A level as a tree; it ends at a place. -/
def Level.close (l : Level) (stop : Place) : Tree :=
  match l.rows with
  | [] => l.row stop
  | rows => .choice ⟨l.first, stop⟩ (l.row stop :: rows).reverse

/-- An open group: its opening parenthesis, what it does, the level it stands in, and
whether blanks are passed over there. -/
structure Group where
  opened : Span
  kind : GroupKind
  outer : Level
  verbose : Bool

/-- The rest of a pattern; `groups` are the open groups, the innermost one first. -/
def readLevels : (fuel : Nat) → (groups : List Group) → Level → Parse Tree
  | 0, _, l => return l.close (← place)
  | fuel + 1, groups, l => do
    skipSpace
    match ← peek with
    | none =>
      match groups with
      | [] => return l.close (← place)
      | g :: _ => refuse .groupUnclosed g.opened none
    | some ')' =>
      match groups with
      | [] => refuse .groupUnopened (← nextSpan) none
      | g :: groups => do
        let inner := l.close (← place)
        bump
        modify fun r => { r with verbose := g.verbose }
        let t := Tree.group (← since g.opened.start) g.kind inner
        readLevels fuel groups (g.outer.push t)
    | some '|' => do
      let row := l.row (← place)
      bump
      readLevels fuel groups ⟨l.first, ← place, [], row :: l.rows⟩
    | some '(' => do
      let opened ← nextSpan
      match ← readGroupStart opened with
      | .flags change => do
        applyVerbose change
        readLevels fuel groups (l.push (.flags (← since opened.start) change))
      | .group kind => do
        let verbose := (← get).verbose
        match kind with
        | .plain change => applyVerbose change
        | .numbered _ => pure ()
        readLevels fuel (⟨opened, kind, l, verbose⟩ :: groups) { first := ← place }
    | some '[' => do
      let c ← readBrackets
      readLevels fuel groups (l.push (.charClass c))
    | some c =>
      if c = '?' || c = '*' || c = '+' || c = '\x7b' then
        match l.items with
        | t :: items =>
          if t.isRepeatable then
            let b ← readRepetition c
            let t := Tree.again ⟨t.span.start, ← place⟩ b.least b.most b.greedy t
            readLevels fuel groups { l with items := t :: items }
          else refuse .nothingToRepeat (← here) none
        | [] => refuse .nothingToRepeat (← here) none
      else do
        let t ← readPart c
        readLevels fuel groups (l.push t)

/-- The tree of a pattern. -/
def treeOf (pattern : String) : Except Fault Tree :=
  (readLevels (pattern.length + 1) [] { first := {} } { rest := pattern.toList }).map Prod.fst

end ActionTree.Pattern
