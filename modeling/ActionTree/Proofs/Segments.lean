import ActionTree.Program.Reference

/-!
# ActionTree.Proofs.Segments

The segments of ids, references and documents.

1. cutting a text at slashes and putting the pieces together again are inverse to each
   other (`pieces_intercalate`, `intercalate_pieces`), and what stands on both sides of a
   slash is cut on its own (`pieces_slash`); of any separator, what is put together with it is
   cut each on its own (`piecesOf_intercalate`), what is put around a text goes to the
   first and the last piece (`piecesOf_surround`), and a text can be cut in front of its last
   piece (`pieces_of_cutLast`);
2. what is left of segments that were settled are ordinary names (`settle_isName`), and
   segments that lead nowhere leave no trace in them (`settle_detour`);
3. a reference is settled as a whole, so a detour between any two of its segments changes
   nothing (`resolveReference_detour`);
4. no name on the path of a document is empty or leads back, and the last of them has the
   ending of documents (`documentPath?_isDocumentPath`); only the empty id is resolved to no
   document (`documentPath?_resolveReference`).
-/

namespace ActionTree

namespace Text

/-! ## Pieces -/

theorem piecesOf_eq_splitOn (sep : Char) (cs : List Char) : piecesOf sep cs = cs.splitOn sep := by
  induction cs with
  | nil => rfl
  | cons c cs ih =>
    rw [piecesOf, List.splitOn_cons_eq_if_modifyHead, ih]
    by_cases hc : c = sep
    · simp [hc]
    · rw [if_neg hc, if_neg (by simpa using hc)]
      cases hcs : List.splitOn sep cs with
      | nil => exact absurd hcs (List.splitOn_ne_nil sep cs)
      | cons w ws => rfl

theorem not_mem_of_mem_piecesOf {sep : Char} {cs piece : List Char}
    (h : piece ∈ piecesOf sep cs) : sep ∉ piece := by
  induction cs generalizing piece with
  | nil =>
    obtain rfl := List.mem_singleton.mp h
    exact List.not_mem_nil
  | cons c cs ih =>
    unfold piecesOf at h
    split at h
    · rcases List.mem_cons.mp h with rfl | h
      · exact List.not_mem_nil
      · exact ih h
    · next hc =>
      split at h
      · next hnil => exact absurd hnil (piecesOf_ne_nil sep cs)
      · next w ws hws =>
        rcases List.mem_cons.mp h with rfl | h
        · rw [List.mem_cons, not_or]
          exact ⟨Ne.symm hc, ih (hws ▸ List.mem_cons_self)⟩
        · exact ih (hws ▸ List.mem_cons_of_mem w h)

/-- No piece has a separator in it. -/
theorem not_mem_of_mem_pieces {sep : Char} {s piece : String} (h : piece ∈ pieces sep s) :
    sep ∉ piece.toList := by
  obtain ⟨cs, hcs, rfl⟩ := List.mem_map.mp h
  rw [String.toList_ofList]
  exact not_mem_of_mem_piecesOf hcs

/-- What stands on both sides of a separator is cut on its own. -/
theorem piecesOf_append_cons (sep : Char) (as bs : List Char) :
    piecesOf sep (as ++ sep :: bs) = piecesOf sep as ++ piecesOf sep bs := by
  rw [piecesOf_eq_splitOn, List.splitOn_append_cons_self, ← piecesOf_eq_splitOn,
    ← piecesOf_eq_splitOn]

/-- What has no separator in it is one piece. -/
theorem piecesOf_of_not_mem {sep : Char} {cs : List Char} (h : sep ∉ cs) :
    piecesOf sep cs = [cs] := by
  rw [piecesOf_eq_splitOn, List.splitOn_eq_singleton h]

/-- Texts that are put together with separators are cut each on its own. -/
theorem piecesOf_intercalate (sep : Char) {ws : List (List Char)} (hws : ws ≠ []) :
    piecesOf sep (List.intercalate [sep] ws) = ws.flatMap (piecesOf sep) := by
  induction ws with
  | nil => contradiction
  | cons w ws ih =>
    cases ws with
    | nil => simp [List.intercalate_singleton]
    | cons v vs =>
      rw [List.intercalate_cons_cons, List.append_assoc, List.singleton_append,
        piecesOf_append_cons, ih (by simp)]
      rfl

/-- What is put around a text that is cut goes to its first and to its last piece. -/
theorem piecesOf_surround {sep : Char} {front cs back : List Char} (hfront : sep ∉ front)
    (hback : sep ∉ back) (h : sep ∈ cs) :
    ∃ first inner last, piecesOf sep cs = first :: (inner ++ [last]) ∧
      piecesOf sep (front ++ cs ++ back) = (front ++ first) :: (inner ++ [last ++ back]) := by
  obtain ⟨first, more, rfl, hfirst⟩ := List.eq_append_cons_of_mem h
  have hbegin : piecesOf sep (front ++ first) = [front ++ first] := by
    refine piecesOf_of_not_mem fun hmem => ?_
    rcases List.mem_append.1 hmem with hmem | hmem
    · exact hfront hmem
    · exact hfirst hmem
  have hend {last : List Char} (hlast : sep ∉ last) :
      piecesOf sep (last ++ back) = [last ++ back] := by
    refine piecesOf_of_not_mem fun hmem => ?_
    rcases List.mem_append.1 hmem with hmem | hmem
    · exact hlast hmem
    · exact hback hmem
  by_cases hmore : sep ∈ more
  · obtain ⟨rlast, rinner, hreverse, hlast⟩ :=
      List.eq_append_cons_of_mem (List.mem_reverse.2 hmore)
    obtain rfl : more = rinner.reverse ++ sep :: rlast.reverse := by
      rw [← List.reverse_reverse more, hreverse]
      simp
    have hlast' : sep ∉ rlast.reverse := fun hmem => hlast (List.mem_reverse.1 hmem)
    refine ⟨first, piecesOf sep rinner.reverse, rlast.reverse, ?_, ?_⟩
    · rw [piecesOf_append_cons, piecesOf_append_cons, piecesOf_of_not_mem hfirst,
        piecesOf_of_not_mem hlast', List.singleton_append]
    · have hcut : front ++ (first ++ sep :: (rinner.reverse ++ sep :: rlast.reverse)) ++ back =
          (front ++ first) ++ sep :: (rinner.reverse ++ sep :: (rlast.reverse ++ back)) := by simp
      rw [hcut, piecesOf_append_cons, piecesOf_append_cons, hbegin, hend hlast',
        List.singleton_append]
  · refine ⟨first, [], more, ?_, ?_⟩
    · rw [piecesOf_append_cons, piecesOf_of_not_mem hfirst, piecesOf_of_not_mem hmore]
      rfl
    · have hcut : front ++ (first ++ sep :: more) ++ back =
          (front ++ first) ++ sep :: (more ++ back) := by simp
      rw [hcut, piecesOf_append_cons, hbegin, hend hmore]
      rfl

theorem pieces_slash (a b : String) :
    pieces '/' (a ++ "/" ++ b) = pieces '/' a ++ pieces '/' b := by
  have hcut : (a ++ "/" ++ b).toList = a.toList ++ '/' :: b.toList := by simp
  rw [pieces, hcut, piecesOf_append_cons, List.map_append]
  rfl

theorem pieces_of_not_mem {sep : Char} {s : String} (h : sep ∉ s.toList) : pieces sep s = [s] := by
  rw [pieces, piecesOf_of_not_mem h, List.map_singleton, String.ofList_toList]

theorem pieces_ne_nil (sep : Char) (s : String) : pieces sep s ≠ [] := by
  rw [pieces, Ne, List.map_eq_nil_iff]
  exact piecesOf_ne_nil sep s.toList

/-- Texts without slashes that are put together with slashes are its pieces. -/
theorem pieces_intercalate {names : List String} (hnames : names ≠ [])
    (hslash : ∀ name ∈ names, '/' ∉ name.toList) :
    pieces '/' ("/".intercalate names) = names := by
  have hlists : ∀ cs ∈ names.map String.toList, '/' ∉ cs := by
    intro cs hcs
    obtain ⟨name, hname, rfl⟩ := List.mem_map.mp hcs
    exact hslash name hname
  have hjoined : ("/".intercalate names).toList =
      List.intercalate ['/'] (names.map String.toList) := by
    rw [String.toList_intercalate]
    rfl
  rw [pieces, hjoined, piecesOf_eq_splitOn,
    List.splitOn_intercalate '/' hlists (by simpa using hnames), List.map_map]
  simp [Function.comp_def]

theorem intercalate_pieces (s : String) : "/".intercalate (pieces '/' s) = s := by
  have hlists : (pieces '/' s).map String.toList = piecesOf '/' s.toList := by
    simp [pieces, Function.comp_def]
  rw [← String.toList_inj, String.toList_intercalate, hlists]
  exact intercalate_piecesOf '/' s.toList

/-- What is put behind the last of several texts is behind all that are put together. -/
theorem intercalate_append_last (front : List String) (last tail : String) :
    "/".intercalate (front ++ [last ++ tail]) = "/".intercalate (front ++ [last]) ++ tail := by
  by_cases hfront : front = []
  · simp [hfront]
  · rw [String.intercalate_append_of_ne_nil hfront (by simp),
      String.intercalate_append_of_ne_nil hfront (by simp)]
    simp only [String.intercalate_singleton, String.append_assoc]

/-- The last piece takes in what is put behind a text, if that has no slash in it. -/
theorem pieces_append (s : String) {tail : String} (htail : '/' ∉ tail.toList) :
    ∃ front last, pieces '/' s = front ++ [last] ∧
      pieces '/' (s ++ tail) = front ++ [last ++ tail] := by
  obtain ⟨front, last, hpieces⟩ : ∃ front last, pieces '/' s = front ++ [last] :=
    ⟨_, _, (List.dropLast_concat_getLast (pieces_ne_nil '/' s)).symm⟩
  have hslash : ∀ name ∈ front ++ [last], '/' ∉ name.toList := fun name hname =>
    not_mem_of_mem_pieces (hpieces ▸ hname)
  have hjoined : s ++ tail = "/".intercalate (front ++ [last ++ tail]) := by
    rw [intercalate_append_last, ← hpieces, intercalate_pieces]
  refine ⟨front, last, hpieces, ?_⟩
  rw [hjoined]
  refine pieces_intercalate (by simp) fun name hname => ?_
  rcases List.mem_append.mp hname with hname | hname
  · exact hslash name (List.mem_append_left _ hname)
  · obtain rfl := List.mem_singleton.mp hname
    rw [String.toList_append, List.mem_append, not_or]
    exact ⟨hslash last (by simp), htail⟩

/-! ## The last piece -/

theorem cutLastChars_eq_none_iff {sep : Char} {cs : List Char} :
    cutLastChars sep cs = none ↔ sep ∉ cs := by
  induction cs with
  | nil => simp [cutLastChars]
  | cons c cs ih =>
    rw [cutLastChars]
    cases hcs : cutLastChars sep cs with
    | some ab => simp [← Decidable.not_iff_not.mpr ih, hcs]
    | none => simp [ih.mp hcs, eq_comm]

/-- A text is cut in front of its last piece. -/
theorem cutLastChars_eq_some_iff {sep : Char} {cs a b : List Char} :
    cutLastChars sep cs = some (a, b) ↔ sep ∉ b ∧ cs = a ++ sep :: b := by
  induction cs generalizing a with
  | nil => simp [cutLastChars]
  | cons c cs ih =>
    rw [cutLastChars]
    by_cases hsep : sep ∈ cs
    · obtain ⟨⟨x, y⟩, hxy⟩ := Option.ne_none_iff_exists'.mp
        fun hnone => cutLastChars_eq_none_iff.mp hnone hsep
      rw [hxy] at ih ⊢
      cases a with
      | nil =>
        refine iff_of_false (by simp) ?_
        rintro ⟨hb, heq⟩
        exact hb ((List.cons.inj heq).2 ▸ hsep)
      | cons d a =>
        have hmore := ih (a := a)
        simp only [Option.some.injEq, Prod.mk.injEq, List.cons.injEq, List.cons_append] at hmore ⊢
        rw [and_assoc, hmore, and_left_comm]
    · rw [cutLastChars_eq_none_iff.mpr hsep]
      dsimp only
      cases a with
      | nil =>
        by_cases hc : c = sep
        · subst hc
          simp only [if_true, Option.some.injEq, Prod.mk.injEq, true_and, List.nil_append,
            List.cons.injEq]
          exact ⟨fun h => ⟨h ▸ hsep, h⟩, fun h => h.2⟩
        · simp [hc]
      | cons d a =>
        refine iff_of_false (by split <;> simp) ?_
        rintro ⟨-, heq⟩
        exact hsep ((List.cons.inj heq).2 ▸ by simp)

theorem cutLast_eq_none_iff {sep : Char} {s : String} :
    cutLast sep s = none ↔ sep ∉ s.toList := by
  rw [cutLast, Option.map_eq_none_iff, cutLastChars_eq_none_iff]

theorem cutLast_eq_some_iff {sep : Char} {s a b : String} :
    cutLast sep s = some (a, b) ↔ sep ∉ b.toList ∧ s.toList = a.toList ++ sep :: b.toList := by
  rw [← cutLastChars_eq_some_iff, cutLast, Option.map_eq_some_iff]
  constructor
  · rintro ⟨⟨x, y⟩, hxy, heq⟩
    simp only [Prod.mk.injEq] at heq
    rw [← heq.1, ← heq.2, String.toList_ofList, String.toList_ofList]
    exact hxy
  · intro h
    exact ⟨_, h, by simp⟩

/-- What is cut off at the last separator is the last piece. -/
theorem pieces_of_cutLast {sep : Char} {s a b : String} (h : cutLast sep s = some (a, b)) :
    pieces sep s = pieces sep a ++ [b] := by
  obtain ⟨hb, hs⟩ := cutLast_eq_some_iff.mp h
  rw [pieces, hs, piecesOf_append_cons, piecesOf_of_not_mem hb, List.map_append, pieces]
  simp

/-! ## Known ends -/

/-- A known beginning is what stands in front of the rest. -/
theorem stripStart_eq_some {start s rest : String} :
    stripStart start s = some rest ↔ s = start ++ rest := by
  rw [stripStart, Option.map_eq_some_iff]
  constructor
  · rintro ⟨cs, hcs, rfl⟩
    have hs := eq_append_of_stripStartChars hcs
    rw [← String.toList_inj, String.toList_append, String.toList_ofList]
    exact hs
  · rintro rfl
    rw [String.toList_append, stripStartChars_append]
    exact ⟨_, rfl, String.ofList_toList⟩

theorem endsWith_iff {tail s : String} : endsWith tail s = true ↔ ∃ stem, s = stem ++ tail := by
  rw [endsWith, stripEndChars, Option.isSome_map, Option.isSome_iff_exists]
  constructor
  · rintro ⟨rest, hrest⟩
    refine ⟨String.ofList rest.reverse, ?_⟩
    have hreverse := congrArg List.reverse (eq_append_of_stripStartChars hrest)
    rw [← String.toList_inj]
    simpa using hreverse
  · rintro ⟨stem, rfl⟩
    rw [String.toList_append, List.reverse_append]
    exact ⟨_, stripStartChars_append _ _⟩

/-! ## Blanks -/

theorem isBlank_of_isAlphanum {c : Char} (h : c.isAlphanum = true) : isBlank c = false := by
  have hn : c.toNat = c.val.toNat := rfl
  delta Char.isAlphanum Char.isAlpha Char.isUpper Char.isLower Char.isDigit at h
  simp only [Bool.or_eq_true, Bool.and_eq_true, decide_eq_true_eq, UInt32.le_iff_toNat_le,
    ge_iff_le] at h
  simp only [isBlank, hn, Bool.or_eq_false_iff, Bool.and_eq_false_iff, decide_eq_false_iff_not,
    beq_eq_false_iff_ne]
  simp only [Char.reduceVal, UInt32.reduceToNat, Char.toNat_val] at h
  omega

/-! ## Blanks around a slash -/

theorem trimStart_append {c : Char} (hc : isBlank c = false) (cs ds : List Char) :
    trimStart (cs ++ c :: ds) = trimStart cs ++ c :: ds := by
  induction cs with
  | nil => simp [trimStart, hc]
  | cons b cs ih =>
    rw [List.cons_append, trimStart, trimStart, List.dropWhile_cons, List.dropWhile_cons]
    split
    · exact ih
    · rfl

theorem trimEnd_append {c : Char} (hc : isBlank c = false) (cs ds : List Char) :
    trimEnd (cs ++ c :: ds) = cs ++ c :: trimEnd ds := by
  induction cs with
  | nil =>
    rw [List.nil_append, List.nil_append, trimEnd, hc]
    cases trimEnd ds <;> rfl
  | cons b cs ih =>
    rw [List.cons_append, trimEnd, ih]
    cases cs <;> rfl

theorem trimStart_of_blank {cs : List Char} (h : ∀ c ∈ cs, isBlank c = true) :
    trimStart cs = [] := by
  induction cs with
  | nil => rfl
  | cons c cs ih =>
    rw [trimStart, List.dropWhile_cons_of_pos (h c List.mem_cons_self)]
    exact ih fun d hd => h d (List.mem_cons_of_mem c hd)

theorem trimEnd_of_blank {cs : List Char} (h : ∀ c ∈ cs, isBlank c = true) : trimEnd cs = [] :=
  trimEnd_eq_nil (List.all_eq_true.2 h)

/-- A character that is no blank is never trimmed. -/
theorem mem_trimChars {c : Char} (hc : isBlank c = false) {cs : List Char} (h : c ∈ cs) :
    c ∈ trimChars cs := by
  obtain ⟨front, back, rfl⟩ := List.append_of_mem h
  rw [trimChars, trimStart_append hc, trimEnd_append hc]
  simp

theorem mem_of_mem_trimEnd {c : Char} {cs : List Char} (h : c ∈ trimEnd cs) : c ∈ cs := by
  induction cs with
  | nil => exact h
  | cons d cs ih =>
    rw [trimEnd] at h
    split at h
    · split at h
      · simp at h
      · exact List.mem_singleton.1 h ▸ List.mem_cons_self
    · rcases List.mem_cons.1 h with rfl | h
      · exact List.mem_cons_self
      · exact List.mem_cons_of_mem _ (ih h)

/-- Trimming adds nothing. -/
theorem mem_of_mem_trimChars {c : Char} {cs : List Char} (h : c ∈ trimChars cs) : c ∈ cs :=
  (List.dropWhile_suffix isBlank).subset (mem_of_mem_trimEnd h)

/-- What stands between blanks is kept, if it begins and ends with characters that are none. -/
theorem trimChars_surround {first last : Char} (hfirst : isBlank first = false)
    (hlast : isBlank last = false) {front back : List Char}
    (hfront : ∀ c ∈ front, isBlank c = true) (hback : ∀ c ∈ back, isBlank c = true)
    (cs : List Char) :
    trimChars (front ++ first :: (cs ++ last :: back)) = first :: (cs ++ [last]) := by
  rw [trimChars, trimStart_append hfirst, trimStart_of_blank hfront, List.nil_append,
    ← List.cons_append, trimEnd_append hlast, trimEnd_of_blank hback, List.cons_append]

/-- Blanks are trimmed before the first and behind the last of the segments. -/
theorem trim_slash (a b : String) :
    trim (a ++ "/" ++ b) =
      String.ofList (trimStart a.toList) ++ "/" ++ String.ofList (trimEnd b.toList) := by
  have hslash : isBlank '/' = false := by decide
  have hcut : (a ++ "/" ++ b).toList = a.toList ++ '/' :: b.toList := by simp
  rw [← String.toList_inj, trim, hcut, trimChars, trimStart_append hslash, trimEnd_append hslash]
  simp

end Text

open Text

/-! ## Ordinary names -/

/-- A segment that is an ordinary name. -/
structure IsName (name : String) : Prop where
  nonempty : name ≠ ""
  notSelf : name ≠ "."
  notAbove : name ≠ ".."
  noSlash : '/' ∉ name.toList

/-- The segments of an id; the empty id has none. -/
def idSegments (id : String) : List String := if id = "" then [] else pieces '/' id

theorem idSegments_intercalate {names : List String} (hnames : ∀ name ∈ names, IsName name) :
    idSegments ("/".intercalate names) = names := by
  cases names with
  | nil => rfl
  | cons name names =>
    have hpieces := pieces_intercalate (List.cons_ne_nil name names) fun n hn =>
      (hnames n hn).noSlash
    have hne : "/".intercalate (name :: names) ≠ "" := by
      intro hempty
      rw [hempty] at hpieces
      have hname : "" = name := (List.cons.inj hpieces).1
      exact (hnames name List.mem_cons_self).nonempty hname.symm
    rw [idSegments, if_neg hne, hpieces]

/-! ## Settling -/

/-- What is left are ordinary names. -/
theorem settle_isName {back ss : List String} (hback : ∀ s ∈ back, IsName s)
    (hslash : ∀ s ∈ ss, '/' ∉ s.toList) : ∀ s ∈ settle back ss, IsName s := by
  induction ss generalizing back with
  | nil =>
    intro s hs
    exact hback s (List.mem_reverse.mp hs)
  | cons s ss ih =>
    have hmore : ∀ t ∈ ss, '/' ∉ t.toList := fun t ht => hslash t (List.mem_cons_of_mem s ht)
    unfold settle
    split
    · exact ih hback hmore
    · next hdot =>
      split
      · exact ih (fun t ht => hback t (List.mem_of_mem_tail ht)) hmore
      · next habove =>
        rw [Bool.or_eq_true, decide_eq_true_iff, decide_eq_true_iff, not_or] at hdot
        have hs : IsName s := ⟨hdot.1, hdot.2, habove, hslash s List.mem_cons_self⟩
        exact ih (List.forall_mem_cons.mpr ⟨hs, hback⟩) hmore

/-- What is settled first is settled on its own. -/
theorem settle_append (back xs : List String) :
    ∃ seen, ∀ ys, settle back (xs ++ ys) = settle seen ys := by
  induction xs generalizing back with
  | nil => exact ⟨back, fun _ => rfl⟩
  | cons x xs ih =>
    simp only [List.cons_append, settle]
    split
    · exact ih back
    · split
      · exact ih back.tail
      · exact ih (x :: back)

/-- Segments that lead nowhere: one that stands for the place itself, one with nothing in it,
or a name and the way back from it. -/
inductive Detour : String → Prop where
  | self : Detour "."
  | nothing : Detour ""
  | back {name : String} (hname : IsName name) : Detour (name ++ "/" ++ "..")

/-- A detour leaves no trace. -/
theorem settle_detour {detour : String} (hdetour : Detour detour) (back ss : List String) :
    settle back (pieces '/' detour ++ ss) = settle back ss := by
  cases hdetour with
  | self => rfl
  | nothing => rfl
  | back hname =>
    rename_i name
    rw [pieces_slash, pieces_of_not_mem hname.noSlash, pieces_of_not_mem (s := "..") (by decide)]
    simp [settle, hname.nonempty, hname.notSelf, hname.notAbove]

/-! ## References -/

theorem stripStart_slash (a b : String) :
    stripStart "/" (a ++ "/" ++ b) =
      if a = "" then some b else (stripStart "/" a).map fun rooted => rooted ++ "/" ++ b := by
  have hcut : (a ++ "/" ++ b).toList = a.toList ++ '/' :: b.toList := by simp
  have hstart : "/".toList = ['/'] := rfl
  rw [stripStart, stripStart, hcut, hstart]
  cases hcs : a.toList with
  | nil =>
    obtain rfl : a = "" := String.toList_inj.mp hcs
    simp [stripStartChars]
  | cons c cs =>
    have hne : a ≠ "" := by
      rintro rfl
      contradiction
    rw [if_neg hne, List.cons_append, stripStartChars, stripStartChars, stripStartChars,
      stripStartChars]
    split
    · rw [Option.map_some, Option.map_some, Option.map_some, Option.some.injEq,
        ← String.toList_inj]
      simp
    · rfl

/-- Behind a slash of a reference its segments are those of what is behind the slash, whatever
comes before them. -/
theorem referenceSegments_slash (base : Option String) (a : String) :
    ∃ before, ∀ b, referenceSegments base (a ++ "/" ++ b) =
      before ++ pieces '/' (String.ofList (trimEnd b.toList)) := by
  unfold referenceSegments
  simp only [trim_slash, stripStart_slash]
  generalize String.ofList (trimStart a.toList) = start
  by_cases hstart : start = ""
  · exact ⟨[], fun b => by rw [if_pos hstart]; rfl⟩
  · simp only [if_neg hstart]
    cases stripStart "/" start with
    | some rooted => exact ⟨pieces '/' rooted, fun b => pieces_slash rooted _⟩
    | none =>
      cases folderOf base with
      | none => exact ⟨pieces '/' start, fun b => pieces_slash start _⟩
      | some folder =>
        refine ⟨pieces '/' (folder ++ "/" ++ start), fun b => ?_⟩
        rw [← pieces_slash]
        simp only [Option.map_none, String.append_assoc]

/-- Every segment of a resolved reference is an ordinary name. -/
theorem resolveReference_segments (base : Option String) (reference : String) :
    ∀ s ∈ idSegments (resolveReference base reference), IsName s := by
  have hslash : ∀ s ∈ referenceSegments base reference, '/' ∉ s.toList := by
    unfold referenceSegments
    dsimp only
    split <;> exact fun s hs => not_mem_of_mem_pieces hs
  have hnames := settle_isName (List.forall_mem_nil IsName) hslash
  rw [resolveReference, idSegments_intercalate hnames]
  exact hnames

/-- A detour between any two segments of a reference changes nothing. -/
theorem resolveReference_detour (base : Option String) (a b : String) {detour : String}
    (hdetour : Detour detour) :
    resolveReference base (a ++ "/" ++ detour ++ "/" ++ b) =
      resolveReference base (a ++ "/" ++ b) := by
  obtain ⟨before, hbefore⟩ := referenceSegments_slash base a
  obtain ⟨seen, hseen⟩ := settle_append [] before
  have hlonger : a ++ "/" ++ detour ++ "/" ++ b = a ++ "/" ++ (detour ++ "/" ++ b) := by
    simp only [String.append_assoc]
  have htrimmed : String.ofList (trimEnd (detour ++ "/" ++ b).toList) =
      detour ++ "/" ++ String.ofList (trimEnd b.toList) := by
    have hcut : (detour ++ "/" ++ b).toList = detour.toList ++ '/' :: b.toList := by simp
    rw [← String.toList_inj, hcut, trimEnd_append (by decide)]
    simp
  rw [hlonger, resolveReference, resolveReference, hbefore, hbefore, hseen, hseen, htrimmed,
    pieces_slash, settle_detour hdetour]

/-! ## Documents -/

theorem documentPath?_eq_none {id : String} :
    documentPath? id = none ↔ ".." ∈ pieces '/' id ∨ "" ∈ pieces '/' id := by
  have hany : ((pieces '/' id).any fun s => s == ".." || s == "") = true ↔
      ".." ∈ pieces '/' id ∨ "" ∈ pieces '/' id := by
    simp only [List.any_eq_true, Bool.or_eq_true, beq_iff_eq]
    constructor
    · rintro ⟨s, hs, rfl | rfl⟩
      · exact .inl hs
      · exact .inr hs
    · rintro (hs | hs)
      · exact ⟨"..", hs, .inl rfl⟩
      · exact ⟨"", hs, .inr rfl⟩
  rw [← hany, documentPath?]
  split
  · next hbad => exact iff_of_true rfl hbad
  · next hgood =>
    refine iff_of_false ?_ hgood
    split <;> exact Option.some_ne_none _

theorem documentPath?_of_ne_none {id : String} (h : documentPath? id ≠ none) :
    documentPath? id =
      some (if endsWith documentEnding id then id else id ++ documentEnding) := by
  unfold documentPath? at h ⊢
  split at h
  · contradiction
  · next hgood =>
    rw [if_neg hgood]
    split <;> rfl

/-- The path of a document is an id with the ending of documents. -/
theorem documentPath?_eq_append {id path : String} (h : documentPath? id = some path) :
    ∃ stem, path = stem ++ documentEnding ∧ (id = stem ∨ id = path) := by
  unfold documentPath? at h
  split at h
  · contradiction
  · split at h
    · next hending =>
      obtain rfl := Option.some.inj h
      obtain ⟨stem, hstem⟩ := endsWith_iff.mp hending
      exact ⟨stem, hstem, .inr rfl⟩
    · obtain rfl := Option.some.inj h
      exact ⟨id, rfl, .inl rfl⟩

/-- What the path of a document is made of. -/
structure IsDocumentPath (path : String) : Prop where
  noEmpty : "" ∉ pieces '/' path
  noWayBack : ".." ∉ pieces '/' path
  ending : ∃ stem, path = stem ++ documentEnding
  document : ∃ front last, pieces '/' path = front ++ [last ++ documentEnding]

/-- What ends like a document is no empty text and no dots. -/
theorem append_documentEnding_ne (stem : String) {s : String} (hs : s.toList.getLast? ≠ some 'l') :
    stem ++ documentEnding ≠ s := by
  rintro rfl
  have hending : documentEnding.toList = ['.', 'x', 'm', 'l'] := rfl
  rw [String.toList_append, hending] at hs
  simp at hs

theorem documentPath?_isDocumentPath {id path : String} (h : documentPath? id = some path) :
    IsDocumentPath path := by
  have hid : documentPath? id ≠ none := by simp [h]
  rw [Ne, documentPath?_eq_none, not_or] at hid
  have hslash : '/' ∉ documentEnding.toList := by decide
  obtain ⟨stem, rfl, rfl | rfl⟩ := documentPath?_eq_append h
  · obtain ⟨front, last, hbare, hpieces⟩ := pieces_append id hslash
    rw [hbare, List.mem_append, not_or, List.mem_append, not_or] at hid
    have hlast {s : String} (hs : s.toList.getLast? ≠ some 'l') (hfront : s ∉ front) :
        s ∉ pieces '/' (id ++ documentEnding) := by
      rw [hpieces, List.mem_append, List.mem_singleton, not_or]
      exact ⟨hfront, (append_documentEnding_ne last hs).symm⟩
    exact ⟨hlast (by decide) hid.2.1, hlast (by decide) hid.1.1, ⟨id, rfl⟩, front, last, hpieces⟩
  · obtain ⟨front, last, -, hpieces⟩ := pieces_append stem hslash
    exact ⟨hid.2, hid.1, ⟨stem, rfl⟩, front, last, hpieces⟩

/-- Only the empty id is resolved to no document. -/
theorem documentPath?_resolveReference (base : Option String) (reference : String) :
    documentPath? (resolveReference base reference) = none ↔
      resolveReference base reference = "" := by
  have hnames := resolveReference_segments base reference
  generalize resolveReference base reference = id at hnames ⊢
  rw [documentPath?_eq_none]
  constructor
  · intro hbad
    by_cases hid : id = ""
    · exact hid
    · rw [idSegments, if_neg hid] at hnames
      rcases hbad with hbad | hbad
      · exact absurd rfl (hnames _ hbad).notAbove
      · exact absurd rfl (hnames _ hbad).nonempty
  · rintro rfl
    exact .inr List.mem_cons_self

end ActionTree
