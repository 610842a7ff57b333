import ActionTree.Proofs.Substitution
import ActionTree.Services

/-!
# ActionTree.Proofs.Segmentation

One cut of a text into literal pieces and references.

1. a reference is a name in braces, and the cut takes the leftmost one, goes on behind
   it, and keeps all else (`Segmentation`).  There is one such cut and no other;
2. a template is cut that way by runs of name characters, a condition's splices at the
   first closing brace.  As no name has a brace in it, both find the same names
   (`reference?_eq_some_iff`, `cutChars_name_iff`);
3. both then put together the literal pieces and the texts of the fields, and look at
   neither again.
-/

namespace ActionTree

open Text

/-! ## References -/

/-- No name has a closing brace in it. -/
theorem brace_not_mem_of_isName {name : List Char} (h : isName name = true) : '}' ∉ name :=
  fun hmem => absurd (isNameChar_of_isName h hmem) (by decide)

/-- A reference in front of a rest. -/
def referenceChars (name rest : List Char) : List Char := '{' :: (name ++ '}' :: rest)

/-- A reference stands in a text, behind `before` and in front of `after`. -/
structure ReferenceIn (cs before name after : List Char) : Prop where
  isName : isName name = true
  eq : cs = before ++ referenceChars name after

/-- A text has no reference in it. -/
def IsLiteral (cs : List Char) : Prop := ∀ before name after, ¬ ReferenceIn cs before name after

/-- A reference of which none stands further left. -/
structure FirstReference (cs before name after : List Char) : Prop
    extends ReferenceIn cs before name after where
  leftmost : ∀ b n a, ReferenceIn cs b n a → before.length ≤ b.length

/-- What a name and its brace are cut from shows both. -/
theorem name_inj {name name' after after' : List Char} (h : isName name = true)
    (h' : isName name' = true) (heq : name ++ '}' :: after = name' ++ '}' :: after') :
    name = name' ∧ after = after' := by
  have hcut := List.append_eq_append_iff.1 heq
  obtain ⟨more, rfl, hafter⟩ | ⟨more, rfl, hafter⟩ := hcut
  · cases more with
    | nil => simpa using hafter
    | cons d more =>
      obtain rfl : '}' = d := (List.cons.inj hafter).1
      exact absurd (by simp) (brace_not_mem_of_isName h')
  · cases more with
    | nil => simpa using hafter.symm
    | cons d more =>
      obtain rfl : '}' = d := (List.cons.inj hafter).1
      exact absurd (by simp) (brace_not_mem_of_isName h)

/-- Of two leftmost references both are the same. -/
theorem FirstReference.unique {cs before name after before' name' after' : List Char}
    (h : FirstReference cs before name after) (h' : FirstReference cs before' name' after') :
    before = before' ∧ name = name' ∧ after = after' := by
  have hlength : before.length = before'.length :=
    Nat.le_antisymm (h.leftmost _ _ _ h'.toReferenceIn) (h'.leftmost _ _ _ h.toReferenceIn)
  obtain ⟨hbefore, hrest⟩ := List.append_inj (h.eq.symm.trans h'.eq) hlength
  exact ⟨hbefore, name_inj h.isName h'.isName (List.cons.inj hrest).2⟩

/-! ## The cut -/

/-- A literal piece, unless there is nothing in it. -/
def literalPiece : List Char → List Piece
  | [] => []
  | cs => [.literal cs]

/-- A text cut into pieces: up to the leftmost reference, the reference, and the pieces of
what is behind it. -/
inductive Segmentation : List Char → List Piece → Prop where
  | literal {cs : List Char} (h : IsLiteral cs) : Segmentation cs (literalPiece cs)
  | reference {cs before name after : List Char} {ps : List Piece}
      (h : FirstReference cs before name after) (hps : Segmentation after ps) :
      Segmentation cs (literalPiece before ++ .reference (String.ofList name) :: ps)

/-- There is one cut at most. -/
theorem Segmentation.unique {cs : List Char} {ps qs : List Piece} (hps : Segmentation cs ps)
    (hqs : Segmentation cs qs) : ps = qs := by
  induction hps generalizing qs with
  | literal h =>
    cases hqs with
    | literal => rfl
    | reference hfirst => exact absurd hfirst.toReferenceIn (h _ _ _)
  | reference hfirst _ ih =>
    cases hqs with
    | literal h => exact absurd hfirst.toReferenceIn (h _ _ _)
    | reference hfirst' hqs =>
      obtain ⟨rfl, rfl, rfl⟩ := hfirst.unique hfirst'
      rw [ih hqs]

theorem push_literalPiece (d : Char) (cs : List Char) (name : String) (ps : List Piece) :
    Piece.push d (literalPiece cs ++ .reference name :: ps) =
      literalPiece (d :: cs) ++ .reference name :: ps := by
  cases cs <;> rfl

/-- A reference behind a character, unless the character begins it. -/
theorem ReferenceIn.of_cons {d : Char} {rest before name after : List Char}
    (h : ReferenceIn (d :: rest) before name after) :
    (before = [] ∧ d = '{' ∧ rest = name ++ '}' :: after) ∨
      ∃ before', before = d :: before' ∧ ReferenceIn rest before' name after := by
  cases before with
  | nil =>
    obtain ⟨hd, hrest⟩ := List.cons.inj h.eq
    exact .inl ⟨rfl, hd, hrest⟩
  | cons e before' =>
    obtain ⟨rfl, hrest⟩ := List.cons.inj h.eq
    exact .inr ⟨before', rfl, h.isName, hrest⟩

/-- A character that begins no reference belongs to what is literal in front of the first
one. -/
theorem Segmentation.push {d : Char} {rest : List Char} {ps : List Piece}
    (hps : Segmentation rest ps)
    (hd : d = '{' → ∀ name after, isName name = true → rest ≠ name ++ '}' :: after) :
    Segmentation (d :: rest) (Piece.push d ps) := by
  have hbegins {before name after : List Char} (h : ReferenceIn (d :: rest) before name after) :
      ∃ before', before = d :: before' ∧ ReferenceIn rest before' name after := by
    obtain ⟨-, hbrace, hrest⟩ | hbehind := h.of_cons
    · exact absurd hrest (hd hbrace _ _ h.isName)
    · exact hbehind
  cases hps with
  | literal h =>
    have hpush : Piece.push d (literalPiece rest) = literalPiece (d :: rest) := by
      cases rest <;> rfl
    rw [hpush]
    refine .literal fun before name after hin => ?_
    obtain ⟨before', -, hin'⟩ := hbegins hin
    exact h _ _ _ hin'
  | reference hfirst hps =>
    rw [push_literalPiece]
    refine .reference ⟨⟨hfirst.isName, by rw [hfirst.eq]; rfl⟩, fun b n a hin => ?_⟩ hps
    obtain ⟨b', rfl, hin'⟩ := hbegins hin
    exact Nat.succ_le_succ (hfirst.leftmost _ _ _ hin')

/-- A reference at the very beginning is the leftmost. -/
theorem Segmentation.cons {name after : List Char} {ps : List Piece} (hname : isName name = true)
    (hps : Segmentation after ps) :
    Segmentation ('{' :: (name ++ '}' :: after)) (.reference (String.ofList name) :: ps) := by
  have hfirst : FirstReference ('{' :: (name ++ '}' :: after)) [] name after :=
    ⟨⟨hname, rfl⟩, fun _ _ _ _ => Nat.zero_le _⟩
  exact .reference hfirst hps

/-! ## Two ways to find a name -/

namespace Template

/-- The longest run of name characters in front of a closing brace is a name. -/
theorem reference?_eq_some_iff {cs name after : List Char} :
    reference? cs = some (name, after) ↔ isName name = true ∧ cs = name ++ '}' :: after := by
  constructor
  · intro h
    unfold reference? at h
    split at h
    · next c rest =>
      split at h
      · next hstart =>
        split at h
        · next hdrop =>
          obtain ⟨rfl, rfl⟩ : (c :: rest).takeWhile isNameChar = name ∧ _ = after := by
            simpa using h
          have hchar : isNameChar c = true := by simp [isNameChar, hstart]
          refine ⟨?_, by rw [← hdrop, List.takeWhile_append_dropWhile]⟩
          rw [List.takeWhile_cons_of_pos hchar, isName, hstart, Bool.true_and]
          exact List.all_takeWhile
        · simp at h
      · simp at h
    · simp at h
  · rintro ⟨hname, rfl⟩
    have hall : ∀ d ∈ name, isNameChar d = true := fun d hd => isNameChar_of_isName hname hd
    have hbrace : ¬ isNameChar '}' = true := by decide
    cases name with
    | nil => simp [isName] at hname
    | cons c rest =>
      have hstart : isNameStart c = true := by
        rw [isName, Bool.and_eq_true] at hname
        exact hname.1
      rw [List.cons_append, reference?, if_pos hstart, ← List.cons_append,
        List.dropWhile_append_of_pos hall, List.takeWhile_append_of_pos hall,
        List.dropWhile_cons_of_neg hbrace, List.takeWhile_cons_of_neg hbrace, List.append_nil]
      rfl

end Template

/-- A name up to the first closing brace. -/
theorem cutChars_name_iff {cs name after : List Char} (hname : isName name = true) :
    cutChars '}' cs = some (name, after) ↔ cs = name ++ '}' :: after := by
  rw [cutChars_eq_some_iff]
  exact and_iff_right (brace_not_mem_of_isName hname)

namespace Template

/-- Templates are cut at the leftmost references. -/
theorem segmentation_piecesOf (cs : List Char) : Segmentation cs (piecesOf cs) := by
  fun_induction piecesOf cs with
  | case1 => exact .literal fun before name after h => by simpa [referenceChars] using h.eq
  | case2 rest name after href ih =>
    obtain ⟨hname, rfl⟩ := reference?_eq_some_iff.1 href
    exact ih.cons hname
  | case3 rest href ih =>
    refine ih.push fun _ name after hname hrest => ?_
    rw [reference?_eq_some_iff.2 ⟨hname, hrest⟩] at href
    contradiction
  | case4 d rest hd ih => exact ih.push fun hbrace => absurd hbrace hd

end Template

namespace Expr

/-- And so are the splices of conditions. -/
theorem segmentation_splicePieces (cs : List Char) : Segmentation cs (splicePieces cs) := by
  fun_induction splicePieces cs with
  | case1 => exact .literal fun before name after h => by simpa [referenceChars] using h.eq
  | case2 rest name after hcut hname ih =>
    rw [(cutChars_name_iff hname).1 hcut]
    exact ih.cons hname
  | case3 rest name after hcut hname ih =>
    refine ih.push fun _ name' after' hname' hrest => ?_
    cases hcut.symm.trans ((cutChars_name_iff hname').2 hrest)
    exact hname hname'
  | case4 rest hcut ih =>
    refine ih.push fun _ name after hname hrest => ?_
    cases hcut.symm.trans ((cutChars_name_iff hname).2 hrest)
  | case5 d rest hd ih => exact ih.push fun hbrace => absurd hbrace hd

theorem splicePieces_eq_piecesOf (cs : List Char) : splicePieces cs = Template.piecesOf cs :=
  (segmentation_splicePieces cs).unique (Template.segmentation_piecesOf cs)

end Expr

/-! ## One cut, two expanders -/

namespace Template

theorem pieces_eq {text : String} {ps : List Piece} (h : Segmentation text.toList ps) :
    pieces text = ps :=
  (segmentation_piecesOf text.toList).unique h

/-- A text without an opening brace is expanded to itself. -/
theorem expand_of_no_brace {text : String} (h : '{' ∉ text.toList) (c : Context) :
    expand text c = text := by
  have hliteral : IsLiteral text.toList := by
    intro before name after hin
    rw [hin.eq] at h
    exact h (by simp [referenceChars])
  have hpiece : (Piece.join c (literalPiece text.toList)).toList = text.toList := by
    rw [Expr.toList_join]
    cases text.toList <;> simp [literalPiece, Piece.text]
  rw [expand, pieces_eq (.literal hliteral)]
  exact String.toList_inj.1 hpiece

/-- A text that is one reference is expanded to the text of the field. -/
theorem expand_reference {name : String} (h : isName name.toList = true) (c : Context) :
    expand ("\x7b" ++ name ++ "\x7d") c = (Piece.reference name).text c := by
  have hcut : Segmentation ("\x7b" ++ name ++ "\x7d").toList [.reference name] := by
    have hnothing : Segmentation [] [] :=
      .literal fun before name after hin => by simpa [referenceChars] using hin.eq
    simpa using hnothing.cons h
  have htext : (Piece.join c [.reference name]).toList = ((Piece.reference name).text c).toList := by
    simp [Expr.toList_join]
  rw [expand, pieces_eq hcut]
  exact String.toList_inj.1 htext

end Template

/-- **Expansion is one pass over one cut.**  A text is cut at its leftmost references, in one
way only and before any field is looked at; and in every scope a template and a splice of a
condition both come to the literal pieces and the texts of the fields, one after another. -/
theorem expanders_share_one_cut (text : String) :
    (∀ ps, Segmentation text.toList ps ↔ ps = Template.pieces text) ∧
      ∀ c, Templates.braces text c =
          .ok (String.join ((Template.pieces text).map (Piece.text c))) ∧
        String.ofList (Expr.interpolate c text.toList) =
          String.join ((Template.pieces text).map (Piece.text c)) := by
  have hcut : Segmentation text.toList (Template.pieces text) :=
    Template.segmentation_piecesOf text.toList
  have hjoin (c : Context) :
      String.join ((Template.pieces text).map (Piece.text c)) =
        Piece.join c (Template.pieces text) := by
    rw [String.join, Piece.join, List.foldl_map]
  refine ⟨fun ps => ⟨fun hps => hps.unique hcut, fun hps => hps ▸ hcut⟩, fun c => ?_⟩
  rw [hjoin]
  refine ⟨rfl, ?_⟩
  rw [Expr.interpolate_eq, Expr.splicePieces_eq_piecesOf, String.ofList_toList]
  rfl

/-- Of doubled braces the inner ones are the reference, and a brace without its other half is
literal. -/
example : Template.pieces "\x7b\x7ba\x7d\x7d \x7bb" =
    [.literal ['{'], .reference "a", .literal ['}', ' ', '{', 'b']] := by cbv

end ActionTree
