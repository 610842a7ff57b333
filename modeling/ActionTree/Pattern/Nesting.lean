import ActionTree.Pattern.Syntax

/-!
# ActionTree.Pattern.Nesting

How deep the parts of a pattern stand inside one another.

1. brackets, parentheses, repetitions, rows of several parts and choices each count
   as one level; single characters and the like count as none;
2. `Tree.tooDeep?` is the first part that stands deeper than allowed, seen from left
   to right and from outside to inside.
-/

namespace ActionTree.Pattern

/-- How many levels a pattern may have. -/
def greatestDepth : Nat := 250

mutual

/-- The first part of a class for which there is no room; `room` is how many levels are
left. -/
def ClassTree.tooDeep? (room : Nat) : ClassTree → Option Span
  | union span items => if room = 0 then some span else tooDeepIn? (room - 1) items
  | combined span _ left right =>
    if room = 0 then some span else left.tooDeep? (room - 1) <|> right.tooDeep? (room - 1)
  | bracketed span _ set => if room = 0 then some span else set.tooDeep? (room - 1)
  | _ => none

/-- The first of some parts of a class for which there is no room. -/
def ClassTree.tooDeepIn? (room : Nat) : List ClassTree → Option Span
  | [] => none
  | c :: cs => c.tooDeep? room <|> tooDeepIn? room cs

end

mutual

/-- The first part of a pattern for which there is no room; `room` is how many levels
are left. -/
def Tree.tooDeep? (room : Nat) : Tree → Option Span
  | charClass c => c.tooDeep? room
  | again span _ _ _ t | group span _ t =>
    if room = 0 then some span else t.tooDeep? (room - 1)
  | sequence span items | choice span items =>
    if room = 0 then some span else tooDeepIn? (room - 1) items
  | _ => none

/-- The first of some parts of a pattern for which there is no room. -/
def Tree.tooDeepIn? (room : Nat) : List Tree → Option Span
  | [] => none
  | t :: ts => t.tooDeep? room <|> tooDeepIn? room ts

end

end ActionTree.Pattern
