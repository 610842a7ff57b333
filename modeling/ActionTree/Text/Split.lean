/-!
# ActionTree.Text.Split

Cutting a text at a character, and the comparison of ASCII letters that
ignores case.

1. `pieces` cuts at every occurrence, so `n` separators give `n + 1` pieces;
2. `cut` cuts at the first occurrence and `cutLast` at the last one;
3. `stripStart` and `stripEnd` take a known beginning or end off a text;
4. `lower` folds `A`–`Z` only: names of codings, headers and formats are ASCII,
   and a letter outside ASCII is never equal to one inside it.
-/

namespace ActionTree.Text

/-! ## Cutting at every occurrence -/

/-- The pieces of a text between the occurrences of a separator. -/
def piecesOf (sep : Char) : List Char → List (List Char)
  | [] => [[]]
  | c :: cs =>
    if c = sep then [] :: piecesOf sep cs
    else
      match piecesOf sep cs with
      | [] => [[c]]
      | w :: ws => (c :: w) :: ws

/-- `piecesOf` on strings. -/
def pieces (sep : Char) (s : String) : List String :=
  (piecesOf sep s.toList).map String.ofList

theorem piecesOf_ne_nil (sep : Char) (cs : List Char) : piecesOf sep cs ≠ [] := by
  cases cs with
  | nil => simp [piecesOf]
  | cons c cs =>
    unfold piecesOf
    split
    · simp
    · split <;> simp

/-- The pieces put together again with the separator give the text back. -/
theorem intercalate_piecesOf (sep : Char) (cs : List Char) :
    List.intercalate [sep] (piecesOf sep cs) = cs := by
  induction cs with
  | nil => rfl
  | cons c cs ih =>
    unfold piecesOf
    split
    · rename_i h
      cases hp : piecesOf sep cs with
      | nil => exact absurd hp (piecesOf_ne_nil sep cs)
      | cons w ws =>
        rw [hp] at ih
        simpa [List.intercalate, List.intersperse, h] using ih
    · cases hp : piecesOf sep cs with
      | nil => exact absurd hp (piecesOf_ne_nil sep cs)
      | cons w ws =>
        rw [hp] at ih
        cases ws with
        | nil => simpa [List.intercalate, List.intersperse] using ih
        | cons v vs => simpa [List.intercalate, List.intersperse] using ih

/-! ## Cutting once -/

/-- What stands before and after the first occurrence of a separator. -/
def cutChars (sep : Char) : List Char → Option (List Char × List Char)
  | [] => none
  | c :: cs =>
    if c = sep then some ([], cs)
    else (cutChars sep cs).map fun (a, b) => (c :: a, b)

theorem cutChars_length {sep : Char} {cs a b : List Char}
    (h : cutChars sep cs = some (a, b)) : b.length < cs.length := by
  induction cs generalizing a with
  | nil => simp [cutChars] at h
  | cons c cs ih =>
    unfold cutChars at h
    split at h
    · simp only [Option.some.injEq, Prod.mk.injEq] at h
      simp [← h.2]
    · simp only [Option.map_eq_some_iff, Prod.mk.injEq, Prod.exists] at h
      obtain ⟨x, y, hxy, _, rfl⟩ := h
      have := ih hxy
      simp only [List.length_cons]
      omega

/-- A text is cut in front of the first separator. -/
theorem cutChars_eq_some_iff {sep : Char} {cs a b : List Char} :
    cutChars sep cs = some (a, b) ↔ sep ∉ a ∧ cs = a ++ sep :: b := by
  induction cs generalizing a with
  | nil => simp [cutChars]
  | cons c cs ih =>
    unfold cutChars
    split
    · next hc =>
      subst hc
      constructor
      · intro h
        obtain ⟨rfl, rfl⟩ : [] = a ∧ cs = b := by simpa using h
        simp
      · rintro ⟨hnot, heq⟩
        cases a with
        | nil => simpa using heq
        | cons d a => simp_all
    · next hc =>
      simp only [Option.map_eq_some_iff, Prod.mk.injEq, Prod.exists]
      constructor
      · rintro ⟨x, y, hxy, rfl, rfl⟩
        obtain ⟨hnot, rfl⟩ := ih.1 hxy
        simp [hnot, Ne.symm hc]
      · rintro ⟨hnot, heq⟩
        cases a with
        | nil => exact absurd (List.cons.inj heq).1 hc
        | cons d a =>
          obtain ⟨rfl, rfl⟩ := List.cons.inj heq
          exact ⟨a, b, ih.2 ⟨fun h => hnot (List.mem_cons_of_mem _ h), rfl⟩, rfl, rfl⟩

/-- What stands before and after the last occurrence of a separator. -/
def cutLastChars (sep : Char) : List Char → Option (List Char × List Char)
  | [] => none
  | c :: cs =>
    match cutLastChars sep cs with
    | some (a, b) => some (c :: a, b)
    | none => if c = sep then some ([], cs) else none

/-- `cutChars` on strings. -/
def cut (sep : Char) (s : String) : Option (String × String) :=
  (cutChars sep s.toList).map fun (a, b) => (String.ofList a, String.ofList b)

/-- `cutLastChars` on strings. -/
def cutLast (sep : Char) (s : String) : Option (String × String) :=
  (cutLastChars sep s.toList).map fun (a, b) => (String.ofList a, String.ofList b)

/-! ## Known beginnings and ends -/

/-- What follows a known beginning, if the text has it. -/
def stripStartChars : List Char → List Char → Option (List Char)
  | [], cs => some cs
  | _ :: _, [] => none
  | p :: ps, c :: cs => if p = c then stripStartChars ps cs else none

/-- `stripStartChars` on strings. -/
def stripStart (start s : String) : Option String :=
  (stripStartChars start.toList s.toList).map String.ofList

/-- Whether a text begins with another. -/
def startsWith (start s : String) : Bool := (stripStartChars start.toList s.toList).isSome

/-- What precedes a known end, if the text has it. -/
def stripEndChars (tail cs : List Char) : Option (List Char) :=
  (stripStartChars tail.reverse cs.reverse).map List.reverse

/-- `stripEndChars` on strings. -/
def stripEnd (tail s : String) : Option String :=
  (stripEndChars tail.toList s.toList).map String.ofList

/-- Whether a text ends with another. -/
def endsWith (tail s : String) : Bool := (stripEndChars tail.toList s.toList).isSome

theorem stripStartChars_append (p cs : List Char) : stripStartChars p (p ++ cs) = some cs := by
  induction p with
  | nil => rfl
  | cons c p ih => simp [stripStartChars, ih]

theorem eq_append_of_stripStartChars {p cs rest : List Char}
    (h : stripStartChars p cs = some rest) : cs = p ++ rest := by
  induction p generalizing cs with
  | nil => simpa [stripStartChars] using h
  | cons c p ih =>
    cases cs with
    | nil => simp [stripStartChars] at h
    | cons d cs =>
      unfold stripStartChars at h
      split at h
      · rename_i hcd
        simp [hcd, ih h]
      · simp at h

/-! ## ASCII letters -/

/-- A text with `A`–`Z` made `a`–`z`. -/
def lower (s : String) : String := String.ofList (s.toList.map Char.toLower)

/-- Equality that ignores the case of ASCII letters. -/
def sameIgnoringCase (a b : String) : Bool := lower a == lower b

/-- An ASCII letter or digit. -/
def isAlnum (c : Char) : Bool := c.isAlpha || c.isDigit

end ActionTree.Text
