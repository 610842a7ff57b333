import ActionTree.Context
import ActionTree.Value.Truth

/-!
# ActionTree.Template

Texts with references to fields, `{name}`.

1. a name starts with an ASCII letter or digit, `_` or `@`, and goes on with
   those, `.`, `:` and `-`;
2. a name between braces is a reference; every other brace is an ordinary
   character, so JSON written in a template stays as it is;
3. a text is cut into pieces once, before any value is looked at; a value that
   happens to hold braces is never cut again.

The cut goes from left to right and takes the longest run of name characters
behind a brace.  Neither brace is a name character, so no other choice of
references is possible.
-/

namespace ActionTree

open Text

/-! ## Names -/

/-- A character that a name may start with. -/
def isNameStart (c : Char) : Bool := isAlnum c || c = '_' || c = '@'

/-- A character that a name may go on with. -/
def isNameChar (c : Char) : Bool := isNameStart c || c = '.' || c = ':' || c = '-'

/-- A name throughout. -/
def isName : List Char → Bool
  | [] => false
  | c :: cs => isNameStart c && cs.all isNameChar

theorem isNameChar_of_isName {name : List Char} {d : Char} (h : isName name = true)
    (hd : d ∈ name) : isNameChar d = true := by
  cases name with
  | nil => simp at hd
  | cons e es =>
    simp only [isName, Bool.and_eq_true, List.all_eq_true] at h
    rcases List.mem_cons.1 hd with rfl | hd
    · simp [isNameChar, h.1]
    · exact h.2 d hd

/-! ## Pieces -/

/-- A piece of a template: text that stands for itself, or a name. -/
inductive Piece where
  | literal (cs : List Char)
  | reference (name : String)
deriving DecidableEq, Repr

/-- The text of a piece in a scope; an unknown name has none. -/
def Piece.text (c : Context) : Piece → String
  | literal cs => String.ofList cs
  | reference name =>
    match c.resolve name with
    | some v => v.toText
    | none => ""

/-- The texts of pieces, one after the other. -/
def Piece.join (c : Context) (ps : List Piece) : String :=
  ps.foldl (fun out p => out ++ p.text c) ""

/-- A character in front of pieces, as part of the literal they start with. -/
def Piece.push (c : Char) : List Piece → List Piece
  | .literal cs :: ps => .literal (c :: cs) :: ps
  | ps => .literal [c] :: ps

namespace Template

/-- The name and the rest, if the characters behind an opening brace are a name
and a closing brace. -/
def reference? (cs : List Char) : Option (List Char × List Char) :=
  match cs with
  | c :: _ =>
    if isNameStart c then
      match cs.dropWhile isNameChar with
      | '}' :: rest => some (cs.takeWhile isNameChar, rest)
      | _ => none
    else none
  | [] => none

theorem reference?_length {cs name rest : List Char} (h : reference? cs = some (name, rest)) :
    rest.length < cs.length := by
  have hlen := (List.dropWhile_suffix isNameChar (l := cs)).length_le
  unfold reference? at h
  split at h
  · split at h
    · split at h
      · rename_i heq
        simp only [Option.some.injEq, Prod.mk.injEq] at h
        rw [heq, h.2] at hlen
        simp only [List.length_cons] at hlen ⊢
        omega
      · simp at h
    · simp at h
  · simp at h

/-- The pieces of a text. -/
def piecesOf (cs : List Char) : List Piece :=
  match cs with
  | [] => []
  | c :: rest =>
    if c = '{' then
      match _h : reference? rest with
      | some (name, after) =>
        .reference (String.ofList name) :: piecesOf after
      | none => Piece.push c (piecesOf rest)
    else Piece.push c (piecesOf rest)
termination_by cs.length
decreasing_by
  all_goals simp_wf
  · have := reference?_length ‹reference? rest = some (name, after)›
    omega

/-- The pieces of a text. -/
def pieces (s : String) : List Piece := piecesOf s.toList

/-- A text with every reference replaced by the text of its value. -/
def expand (s : String) (c : Context) : String := Piece.join c (pieces s)

end Template

end ActionTree
