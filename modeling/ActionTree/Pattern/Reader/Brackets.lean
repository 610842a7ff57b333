import ActionTree.Pattern.Reader.Escape

/-!
# ActionTree.Pattern.Reader.Brackets

Classes in brackets.

1. a class is a row of characters, ranges and other classes, and rows may be combined
   by `&&`, `--` and `~~`, from left to right;
2. `-` and `]` mean themselves at the start of a class;
3. classes inside classes are kept on a stack, so their depth is bounded by nothing
   but the pattern's length.
-/

namespace ActionTree.Pattern

open Text

/-! ## Named classes -/

/-- The classes that have a name in brackets. -/
def namedClass? : String → Option CharSet
  | "alnum" => some (.ofText "30-39 41-5A 61-7A")
  | "alpha" => some (.ofText "41-5A 61-7A")
  | "ascii" => some (.ofText "0-7F")
  | "blank" => some (.ofText "9 20")
  | "cntrl" => some (.ofText "0-1F 7F")
  | "digit" => some (.ofText "30-39")
  | "graph" => some (.ofText "21-7E")
  | "lower" => some (.ofText "61-7A")
  | "print" => some (.ofText "20-7E")
  | "punct" => some (.ofText "21-2F 3A-40 5B-60 7B-7E")
  | "space" => some (.ofText "9-D 20")
  | "upper" => some (.ofText "41-5A")
  | "word" => some (.ofText "30-39 41-5A 5F 61-7A")
  | "xdigit" => some (.ofText "30-39 41-46 61-66")
  | _ => none

/-- The name of a class between `[:` and `:]`; nothing is passed if there is none. -/
def readNamedClass : Parse (Option ClassTree) := do
  let before ← get
  match before.rest with
  | '[' :: ':' :: cs =>
    let (negated, cs, more) := match cs with
      | '^' :: r => (true, r, 1)
      | r => (false, r, 0)
    let name := cs.takeWhile fun c => c != ':'
    match cs.dropWhile fun c => c != ':' with
    | ':' :: ']' :: _ =>
      match namedClass? (String.ofList name) with
      | some s => do
        set (before.bumpedBy (2 + more + name.length + 2))
        return some (.named (← since before.place) negated s)
      | none => return none
    | _ => return none
  | _ => return none

/-! ## Items -/

/-- A part of a class with its span. -/
def readClassPart : Parse (Part × Span) := do
  let start ← place
  match ← peek with
  | some '\\' => do
    let p ← readEscape
    return (p, ← since start)
  | c => do
    let span ← nextSpan
    bump
    return (.literal ⟨span, c.getD '\x00', false⟩, span)

/-- A part of a class as an item. -/
def Part.toItem (p : Part) (span : Span) : Parse ClassTree :=
  match p with
  | literal l => pure (.literal l)
  | set c => pure c
  | _ => refuse .classEscape span none

/-- A part of a class as the bound of a range. -/
def Part.toBound (p : Part) (span : Span) : Parse Literal :=
  match p with
  | literal l => pure l
  | _ => refuse .classRangeBound span none

/-- A character, a class or a range; `opened` is the span of the class it is in. -/
def readClassItem (opened : Span) : Parse ClassTree := do
  let (first, firstSpan) ← readClassPart
  skipSpace
  if ← atEnd then refuse .classUnclosed opened none
  else
    let next ← peekSignificant
    if (← peek) != some '-' || next == some ']' || next == some '-' then
      first.toItem firstSpan
    else if ← advance then
      let (second, secondSpan) ← readClassPart
      let lo ← first.toBound firstSpan
      let hi ← second.toBound secondSpan
      let span : Span := ⟨firstSpan.start, secondSpan.stop⟩
      if hi.char < lo.char then refuse .classRangeOrder span none
      else return .range span lo hi
    else refuse .classUnclosed opened none

/-! ## Rows -/

/-- A row of items, the last one first, and what stands left of the last operator. -/
structure Row where
  place : Place
  items : List ClassTree := []
  pending : Option (ClassTree × SetOp) := none

/-- A row with one more item. -/
def Row.push (r : Row) (item : ClassTree) : Row := { r with items := item :: r.items }

/-- What a row is, combined with what stands left of it. -/
def Row.close (r : Row) : ClassTree :=
  let items := ClassTree.ofItems r.place r.items
  match r.pending with
  | none => items
  | some (left, op) => .combined ⟨left.span.start, items.span.stop⟩ op left items

/-- The operator that comes next, if one does. -/
def operator? : Option Char → Option Char → Option SetOp
  | some '&', some '&' => some .inter
  | some '-', some '-' => some .diff
  | some '~', some '~' => some .symmDiff
  | _, _ => none

/-! ## Brackets -/

/-- An open class: the span of its opening, whether it is negated, and the row that it
will be an item of, unless it is the outermost one. -/
structure Opening where
  span : Span
  negated : Bool
  outer : Option Row

/-- Hyphens at the start of a class. -/
def readHyphens (start : Place) : (fuel : Nat) → Row → Parse Row
  | 0, r => return r
  | fuel + 1, r => do
    if (← peek) == some '-' then
      let span ← nextSpan
      if ← advance then readHyphens start fuel (r.push (.literal ⟨span, '-', false⟩))
      else refuse .classUnclosed (Span.empty start) none
    else return r

/-- The opening of a class, with the characters that stand for themselves there. -/
def readOpening (outer : Option Row) : Parse (Opening × Row) := do
  let start ← place
  let unclosed : Parse Unit := do refuse .classUnclosed (← since start) none
  if ← advance then pure () else unclosed
  let negated := (← peek) == some '^'
  if negated then
    if ← advance then pure () else unclosed
  else pure ()
  let row ← readHyphens start (← remaining) { place := ← place }
  if row.items.isEmpty && (← peek) == some ']' then
    let span ← nextSpan
    if ← advance then pure () else unclosed
    return (⟨← since start, negated, outer⟩, row.push (.literal ⟨span, ']', false⟩))
  else return (⟨← since start, negated, outer⟩, row)

/-- The rest of a class; `opened` is the innermost open one and `openings` are those
around it. -/
def readRows : (fuel : Nat) → (opened : Opening) → (openings : List Opening) → Row →
    Parse ClassTree
  | 0, opened, _, _ => refuse .classUnclosed opened.span none
  | fuel + 1, opened, openings, row => do
    skipSpace
    match ← peek with
    | none => refuse .classUnclosed opened.span none
    | some '[' => do
      match ← readNamedClass with
      | some c => readRows fuel opened openings (row.push c)
      | none => do
        let (o, inner) ← readOpening (some row)
        readRows fuel o (opened :: openings) inner
    | some ']' => do
      bump
      let c := ClassTree.bracketed (← since opened.span.start) opened.negated row.close
      match opened.outer, openings with
      | some outer, o :: openings => readRows fuel o openings (outer.push c)
      | _, _ => return c
    | some c => do
      match operator? (some c) (← peekSecond) with
      | some op => do
        bump
        bump
        readRows fuel opened openings ⟨← place, [], some (row.close, op)⟩
      | none => do
        let item ← readClassItem opened.span
        readRows fuel opened openings (row.push item)

/-- A class in brackets. -/
def readBrackets : Parse ClassTree := do
  let (opened, row) ← readOpening none
  readRows ((← remaining) + 1) opened [] row

end ActionTree.Pattern
