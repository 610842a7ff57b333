import ActionTree.Text.Numeral
import ActionTree.Text.Split

/-!
# ActionTree.Pattern.Fault

What can be wrong with a pattern, and where.

1. a fault has a span of the pattern, and some faults have a second one, where
   what they clash with stands;
2. lines and columns start at one, and columns count characters;
3. the report shows the pattern with carets under the spans.  A pattern of several
   lines is shown with line numbers between two rulers, and a span that reaches
   over a line's end is told in words.
-/

namespace ActionTree.Pattern

open Text

/-! ## Places -/

/-- A place in a pattern. -/
structure Place where
  line : Nat := 1
  column : Nat := 1
deriving DecidableEq, Repr

/-- The place behind a character. -/
def Place.after (p : Place) (c : Char) : Place :=
  if c = '\n' then ⟨p.line + 1, 1⟩ else ⟨p.line, p.column + 1⟩

/-- Whether a place comes before another. -/
def Place.isBefore (p q : Place) : Bool :=
  p.line < q.line || (p.line == q.line && p.column < q.column)

/-- A part of a pattern: where it starts, and the place behind it. -/
structure Span where
  start : Place
  stop : Place
deriving DecidableEq, Repr

/-- A span of nothing. -/
def Span.empty (p : Place) : Span := ⟨p, p⟩

/-! ## Causes -/

/-- Why a pattern was refused. -/
inductive Cause where
  | classEscape
  | classRangeOrder
  | classRangeBound
  | classUnclosed
  | decimalTooLarge
  | hexEmpty
  | hexNoCharacter
  | hexDigit
  | escapeEnd
  | escapeUnknown
  | flagDangling
  | flagTwice
  | flagNegatedTwice
  | flagEnd
  | flagUnknown
  | nameTwice
  | nameEmpty
  | nameCharacter
  | nameEnd
  | groupUnclosed
  | groupUnopened
  | countOrder
  | countEmpty
  | countUnclosed
  | nothingToRepeat
  | edgeUnclosed
  | edgeUnknown
  | edgeEnd
  | propertyName
  | backReference
  | lookAround
  | propertyUnknown
  | propertyValueUnknown
  | propertyForbidden
  | tooDeep
  | notText
deriving DecidableEq, Repr

/-- The wording of a cause. -/
def Cause.message : Cause → String
  | classEscape => "invalid escape sequence found in character class"
  | classRangeOrder => "invalid character class range, the start must be <= the end"
  | classRangeBound => "invalid range boundary, must be a literal"
  | classUnclosed => "unclosed character class"
  | decimalTooLarge => "decimal literal invalid"
  | hexEmpty => "hexadecimal literal empty"
  | hexNoCharacter => "hexadecimal literal is not a Unicode scalar value"
  | hexDigit => "invalid hexadecimal digit"
  | escapeEnd => "incomplete escape sequence, reached end of pattern prematurely"
  | escapeUnknown => "unrecognized escape sequence"
  | flagDangling => "dangling flag negation operator"
  | flagTwice => "duplicate flag"
  | flagNegatedTwice => "flag negation operator repeated"
  | flagEnd => "expected flag but got end of regex"
  | flagUnknown => "unrecognized flag"
  | nameTwice => "duplicate capture group name"
  | nameEmpty => "empty capture group name"
  | nameCharacter => "invalid capture group character"
  | nameEnd => "unclosed capture group name"
  | groupUnclosed => "unclosed group"
  | groupUnopened => "unopened group"
  | countOrder => "invalid repetition count range, the start must be <= the end"
  | countEmpty => "repetition quantifier expects a valid decimal"
  | countUnclosed => "unclosed counted repetition"
  | nothingToRepeat => "repetition operator missing expression"
  | edgeUnclosed =>
    "special word boundary assertion is either unclosed or contains an invalid character"
  | edgeUnknown =>
    "unrecognized special word boundary assertion, valid choices are: start, end, " ++
      "start-half or end-half"
  | edgeEnd =>
    "found either the beginning of a special word boundary or a bounded repetition on a " ++
      "\\b with an opening brace, but no closing brace"
  | propertyName => "invalid Unicode character class"
  | backReference => "backreferences are not supported"
  | lookAround => "look-around, including look-ahead and look-behind, is not supported"
  | propertyUnknown => "Unicode property not found"
  | propertyValueUnknown => "Unicode property value not found"
  | propertyForbidden => "Unicode not allowed here"
  | tooDeep => "exceed the maximum number of nested parentheses/brackets (250)"
  | notText => "pattern can match invalid UTF-8"

/-- A cause and where it is; `other` is what it clashes with. -/
structure Fault where
  cause : Cause
  span : Span
  other : Option Span := none
deriving DecidableEq, Repr

/-! ## Reports -/

/-- The lines between the pieces of a text.  A line that a line feed ends also loses a
carriage return at its end, and nothing behind the last line feed is no line. -/
def linesOfPieces : List String → List String
  | [] => []
  | [last] => if last = "" then [] else [last]
  | l :: ls => (stripEnd "\r" l).getD l :: linesOfPieces ls

/-- The lines of a text. -/
def linesOf (s : String) : List String := linesOfPieces (pieces '\n' s)

namespace Fault

/-- The spans of a fault in the order of their places. -/
def spans (f : Fault) : List Span :=
  match f.other with
  | none => [f.span]
  | some s =>
    if s.start.isBefore f.span.start then [s, f.span] else [f.span, s]

/-- Carets under spans of one line; `column` columns are written already. -/
def carets : (column : Nat) → List Span → List Char
  | _, [] => []
  | column, s :: ss =>
    let length := max 1 (s.stop.column - s.start.column)
    let gap := s.start.column - 1 - column
    List.replicate gap ' ' ++ List.replicate length '^' ++ carets (column + gap + length) ss

/-- How wide line numbers are; zero for a single line, which has none. -/
def numberWidth (pattern : String) : Nat :=
  let count := (linesOf pattern).length + if endsWith "\n" pattern then 1 else 0
  if count ≤ 1 then 0 else (digitsOf count).length

/-- A line number and its colon. -/
def numbering (width n : Nat) : List Char :=
  if width = 0 then [' ', ' ', ' ', ' ']
  else List.replicate (width - (digitsOf n).length) ' ' ++ digitsOf n ++ [':', ' ']

/-- The lines from number `n` on, each with carets under its spans. -/
def notated (width : Nat) (spans : List Span) : (n : Nat) → List String → List Char
  | _, [] => []
  | n, l :: ls =>
    let here := spans.filter fun s => s.start.line = n && s.stop.line = n
    let notes :=
      if here.isEmpty then []
      else List.replicate (if width = 0 then 4 else 2 + width) ' ' ++ carets 0 here ++ ['\n']
    numbering width n ++ l.toList ++ ['\n'] ++ notes ++ notated width spans (n + 1) ls

/-- A span over several lines in words. -/
def inWords (s : Span) : String :=
  "on line " ++ toString s.start.line ++ " (column " ++ toString s.start.column ++
    ") through line " ++ toString s.stop.line ++ " (column " ++ toString (s.stop.column - 1) ++ ")"

/-- The ruler above and below a pattern of several lines. -/
def ruler : String := String.ofList (List.replicate 79 '~') ++ "\n"

/-- The report of a fault in a pattern. -/
def message (f : Fault) (pattern : String) : String :=
  let shown := String.ofList (notated (numberWidth pattern) f.spans 1 (linesOf pattern))
  let body :=
    if pattern.toList.contains '\n' then
      let long := f.spans.filter fun s => s.start.line != s.stop.line
      let words := if long.isEmpty then "" else "\n".intercalate (long.map inWords) ++ "\n"
      ruler ++ shown ++ ruler ++ words
    else shown
  "regex parse error:\n" ++ body ++ "error: " ++ f.cause.message

end Fault

end ActionTree.Pattern
