import ActionTree.Pattern.Reader

/-!
# ActionTree.Pattern.Reader.Escape

What stands behind a backslash.

1. a digit would point back to a group, which is refused;
2. letters stand for characters, classes and conditions on a place;
3. any other character of ASCII means itself.
-/

namespace ActionTree.Pattern

open Text

/-- A single part of a pattern. -/
inductive Part where
  | literal (l : Literal)
  | set (c : ClassTree)
  | anchor (span : Span) (a : Anchor)
  | dot (span : Span)

/-- The characters that mean something by themselves. -/
def isMeta (c : Char) : Bool := "\\.+*?()|[]\x7b\x7d^$#&-~".toList.contains c

/-- The characters that may be escaped and mean themselves. -/
def isEscapable (c : Char) : Bool :=
  isMeta c || (c.toNat < 128 && !isAlnum c && c != '<' && c != '>')

/-- The characters that an escaped letter stands for. -/
def escapedLetter? : Char → Option Char
  | 'a' => some '\x07'
  | 'f' => some '\x0c'
  | 't' => some '\t'
  | 'n' => some '\n'
  | 'r' => some '\r'
  | 'v' => some '\x0b'
  | _ => none

/-- The class that an escaped letter stands for. -/
def shorthand? : Char → Option Shorthand
  | 'd' | 'D' => some .digit
  | 's' | 'S' => some .blank
  | 'w' | 'W' => some .word
  | _ => none

/-- The condition that an escaped letter stands for. -/
def escapedAnchor? : Char → Option Anchor
  | 'A' => some .textStart
  | 'z' => some .textEnd
  | 'b' => some .wordEdge
  | 'B' => some .noWordEdge
  | '<' => some .wordStart
  | '>' => some .wordEnd
  | _ => none

/-! ## Edges of words -/

/-- Characters of names of edges, up to another one. -/
def readEdgeName : (fuel : Nat) → Parse (List Char)
  | 0 => return []
  | fuel + 1 => do
    match ← peek with
    | some c =>
      if c.isAlpha || c = '-' then
        discard advance
        return c :: (← readEdgeName fuel)
      else return []
    | none => return []

/-- The edge of a word that a name in braces stands for; `none` if what is in the
braces is no name, and then nothing was passed. -/
def readEdge (start : Place) : Parse (Option Anchor) := do
  let before ← get
  let brace := before.place
  if ← advance then
    let contents ← place
    let isName := (← peek).any fun c => c.isAlpha || c = '-'
    if isName then
      let name ← readEdgeName (← remaining)
      if (← peek) == some '\x7d' then
        let inner ← since contents
        bump
        match String.ofList name with
        | "start" => return some .wordStart
        | "end" => return some .wordEnd
        | "start-half" => return some .wordStartHalf
        | "end-half" => return some .wordEndHalf
        | _ => refuse .edgeUnknown inner none
      else refuse .edgeUnclosed (← since brace) none
    else
      set before
      return none
  else refuse .edgeEnd (← since start) none

/-! ## Properties -/

/-- What stands in braces. -/
def readBraced : (fuel : Nat) → Parse (List Char)
  | 0 => return []
  | fuel + 1 => do
    match ← peek with
    | none | some '\x7d' => return []
    | some c =>
      discard advance
      return c :: (← readBraced fuel)

/-- What stands before and after the first occurrence of one text in another. -/
def cutAt (sep : List Char) : List Char → Option (List Char × List Char)
  | [] => none
  | c :: cs =>
    match stripStartChars sep (c :: cs) with
    | some rest => some ([], rest)
    | none => (cutAt sep cs).map fun (a, b) => (c :: a, b)

/-- The property that a text in braces asks for, and whether for those who have it
not. -/
def propertyOf (text : List Char) : Bool × Property :=
  let valued (p : List Char × List Char) : Property :=
    ⟨String.ofList p.1, some (String.ofList p.2)⟩
  match cutAt ['!', '='] text, cutAt [':'] text, cutAt ['='] text with
  | some p, _, _ => (true, valued p)
  | none, some p, _ | none, none, some p => (false, valued p)
  | none, none, none => (false, ⟨String.ofList text, none⟩)

/-- The property behind its letter: one character, or what stands in braces. -/
def readPropertyName : Parse (Bool × Property) := do
  match ← peek with
  | some '\x7b' => do
    discard advance
    let text ← readBraced (← remaining)
    if ← atEnd then refuse .escapeEnd (← here) none
    else
      bump
      return propertyOf text
  | some '\\' => refuse .propertyName (← nextSpan) none
  | some c => do
    discard advance
    return (false, ⟨c.toString, none⟩)
  | none => refuse .escapeEnd (← here) none

/-- The class of a property. -/
def readProperty (start : Place) (negated : Bool) : Parse Part := do
  if ← advance then
    let (turned, p) ← readPropertyName
    return .set (.property (← since start) (negated != turned) p)
  else refuse .escapeEnd (← here) none

/-! ## Escapes -/

/-- A character by its number. -/
def readNumbered (start : Place) (count : Nat) : Parse Part := do
  let (c, fixed) ← readHex count
  return .literal ⟨← since start, c, fixed && count = 2⟩

/-- What stands behind a backslash that was passed. -/
def readEscaped (start : Place) (c : Char) : Parse Part := do
  if c.isDigit then refuse .backReference ⟨start, (← nextSpan).stop⟩ none
  else if c = 'x' then readNumbered start 2
  else if c = 'u' then readNumbered start 4
  else if c = 'U' then readNumbered start 8
  else if c = 'p' || c = 'P' then readProperty start (c = 'P')
  else
    bump
    let span ← since start
    match shorthand? c with
    | some s => return .set (.shorthand span c.isUpper s)
    | none =>
      if isEscapable c then return .literal ⟨span, c, false⟩
      else
        match escapedLetter? c, escapedAnchor? c with
        | some l, _ => return .literal ⟨span, l, false⟩
        | none, some a => do
          if c = 'b' && (← peek) == some '\x7b' then
            let a := (← readEdge start).getD a
            return .anchor (← since start) a
          else return .anchor span a
        | none, none => refuse .escapeUnknown span none

/-- An escape. -/
def readEscape : Parse Part := do
  let start ← place
  bump
  match ← peek with
  | none => refuse .escapeEnd (← since start) none
  | some c => readEscaped start c

end ActionTree.Pattern
