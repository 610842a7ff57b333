import ActionTree.Pattern.Fault
import ActionTree.Unicode.CharSet

/-!
# ActionTree.Pattern.Syntax

Patterns as they are written.

1. a *tree* keeps what a pattern says and where, and leaves open what it means: that
   hangs on flags that stand further to the left;
2. a *class* in brackets is a tree of its own kind;
3. every part of a tree has its span of the pattern, which faults point at.
-/

namespace ActionTree.Pattern

/-! ## Small parts -/

/-- A character as it stands in a pattern.  Written by two hexadecimal digits it may
stand for a byte. -/
structure Literal where
  span : Span
  char : Char
  asByte : Bool := false
deriving DecidableEq, Repr

/-- The classes that letters stand for. -/
inductive Shorthand where
  | digit
  | blank
  | word
deriving DecidableEq, Repr

/-- The name of a property, with a value if there is one. -/
structure Property where
  name : String
  value : Option String := none
deriving DecidableEq, Repr

/-- Conditions on a place, as they are written. -/
inductive Anchor where
  | lineStart
  | lineEnd
  | textStart
  | textEnd
  | wordEdge
  | noWordEdge
  | wordStart
  | wordEnd
  | wordStartHalf
  | wordEndHalf
deriving DecidableEq, Repr

/-- What steers the meaning of what follows. -/
inductive Flag where
  /-- Letters in any case. -/
  | ignoreCase
  /-- Lines have starts and ends of their own. -/
  | lines
  /-- A dot is any character. -/
  | dotAll
  /-- What is greedy is lazy, and what is lazy is greedy. -/
  | swapGreed
  /-- Classes hold characters of all scripts. -/
  | unicode
  /-- Carriage returns end lines too. -/
  | returns
  /-- Blanks and comments are passed over. -/
  | verbose
deriving DecidableEq, Repr

/-- Flags that are set or cleared. -/
abbrev FlagChange := List (Flag × Bool)

/-! ## Classes -/

/-- How two sets are combined. -/
inductive SetOp where
  | inter
  | diff
  | symmDiff
deriving DecidableEq, Repr

/-- A class, or a part of a class in brackets. -/
inductive ClassTree where
  | empty (span : Span)
  | literal (l : Literal)
  | range (span : Span) (lo hi : Literal)
  | named (span : Span) (negated : Bool) (set : CharSet)
  | property (span : Span) (negated : Bool) (p : Property)
  | shorthand (span : Span) (negated : Bool) (s : Shorthand)
  | union (span : Span) (items : List ClassTree)
  | combined (span : Span) (op : SetOp) (left right : ClassTree)
  | bracketed (span : Span) (negated : Bool) (set : ClassTree)
deriving Repr

/-- Where a class stands. -/
def ClassTree.span : ClassTree → Span
  | empty s | range s _ _ | named s _ _ | property s _ _ | shorthand s _ _ | union s _
  | combined s _ _ _ | bracketed s _ _ => s
  | literal l => l.span

/-- Items side by side, the last one first; `place` is where the first would have begun. -/
def ClassTree.ofItems (place : Place) : List ClassTree → ClassTree
  | [] => .empty (.empty place)
  | [item] => item
  | last :: items =>
    .union ⟨((items.getLast?).getD last).span.start, last.span.stop⟩ (last :: items).reverse

/-! ## Patterns -/

/-- What parentheses do: they count as a group, or change flags for what is inside. -/
inductive GroupKind where
  | numbered (index : Nat)
  | plain (change : FlagChange)
deriving DecidableEq, Repr

/-- A pattern or a part of it. -/
inductive Tree where
  | empty (span : Span)
  | flags (span : Span) (change : FlagChange)
  | literal (l : Literal)
  | dot (span : Span)
  | anchor (span : Span) (a : Anchor)
  | charClass (c : ClassTree)
  /-- So many times or more, up to a limit if there is one. -/
  | again (span : Span) (least : Nat) (most : Option Nat) (greedy : Bool) (t : Tree)
  | group (span : Span) (kind : GroupKind) (t : Tree)
  | sequence (span : Span) (items : List Tree)
  | choice (span : Span) (items : List Tree)
deriving Repr

/-- Where a part of a pattern stands. -/
def Tree.span : Tree → Span
  | empty s | flags s _ | dot s | anchor s _ | again s _ _ _ _ | group s _ _ | sequence s _
  | choice s _ => s
  | literal l => l.span
  | charClass c => c.span

/-- Parts one after the other, the last one first; `span` is what they fill together. -/
def Tree.ofItems (span : Span) : List Tree → Tree
  | [] => .empty span
  | [t] => t
  | ts => .sequence span ts.reverse

end ActionTree.Pattern
