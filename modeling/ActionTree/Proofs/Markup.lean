import ActionTree.Markup.Document

/-!
# ActionTree.Proofs.Markup

Reading what was written as markup.

1. what `escape` writes is read back, and can stand between quotes and between tags
   (`unescape_escape`, `mem_escape`);
2. a tag that is put together from a plain name and attributes is read as the node of
   that name with those attributes (`nodeOfTag_tagContent`);
3. a document is read piece by piece: `Leads` says what the elements that are open
   become when a piece of the document was read, wherever in the document it stands.
-/

namespace ActionTree.Markup

open Text

/-! ## Escaping -/

theorem escape_cons (c : Char) (cs : List Char) : escape (c :: cs) = escapeChar c ++ escape cs :=
  List.flatMap_cons

/-- A character is written as itself or by name. -/
theorem escapeChar_cases (c : Char) :
    (escapeChar c = [c] ∧ c ≠ '<' ∧ c ≠ '>' ∧ c ≠ '&' ∧ c ≠ '\'' ∧ c ≠ '"') ∨
      ∃ name, escapeChar c = '&' :: (name ++ [';']) ∧ namedChar? name = some c ∧
        name.all Char.isAlpha = true := by
  unfold escapeChar
  split
  · next h => exact .inr ⟨['l', 't'], rfl, by rw [h]; rfl, rfl⟩
  split
  · next h => exact .inr ⟨['g', 't'], rfl, by rw [h]; rfl, rfl⟩
  split
  · next h => exact .inr ⟨['a', 'm', 'p'], rfl, by rw [h]; rfl, rfl⟩
  split
  · next h => exact .inr ⟨['a', 'p', 'o', 's'], rfl, by rw [h]; rfl, rfl⟩
  split
  · next h => exact .inr ⟨['q', 'u', 'o', 't'], rfl, by rw [h]; rfl, rfl⟩
  · next hlt hgt hamp hapos hquot => exact .inl ⟨rfl, hlt, hgt, hamp, hapos, hquot⟩

theorem mem_escape {c : Char} {cs : List Char} (h : c ∈ escape cs) :
    c ≠ '<' ∧ c ≠ '>' ∧ c ≠ '\'' ∧ c ≠ '"' := by
  obtain ⟨d, -, hc⟩ := List.mem_flatMap.mp h
  obtain ⟨hd, hlt, hgt, -, hapos, hquot⟩ | ⟨name, hd, -, hname⟩ := escapeChar_cases d
  · rw [hd, List.mem_singleton] at hc
    subst hc
    exact ⟨hlt, hgt, hapos, hquot⟩
  · rw [hd] at hc
    simp only [List.mem_cons, List.mem_append, List.not_mem_nil, or_false] at hc
    rcases hc with rfl | hc | rfl
    · decide
    · have halpha := List.all_eq_true.mp hname c hc
      refine ⟨?_, ?_, ?_, ?_⟩ <;> rintro rfl <;> contradiction
    · decide

theorem upToEnd_append {name : List Char} (hname : name.all Char.isAlpha = true)
    (rest : List Char) : upToEnd (name ++ ';' :: rest) = some (name, rest) := by
  induction name with
  | nil => rfl
  | cons d name ih =>
    rw [List.all_cons, Bool.and_eq_true] at hname
    obtain ⟨halpha, hmore⟩ := hname
    have hsemi : d ≠ ';' := by
      rintro rfl
      contradiction
    have hamp : d ≠ '&' := by
      rintro rfl
      contradiction
    rw [List.cons_append, upToEnd, if_neg hsemi, if_neg hamp, ih hmore]
    rfl

theorem referencedChar_of_named {name : List Char} {c : Char} (hnamed : namedChar? name = some c)
    (hname : name.all Char.isAlpha = true) (start : Nat) : referencedChar start name = .ok c := by
  unfold referencedChar
  split
  · rw [List.all_cons] at hname
    contradiction
  · rw [hnamed]

/-- What was escaped is read back. -/
theorem unescapeFrom_escape (start stop : Nat) (cs : List Char) :
    unescapeFrom start stop (escape cs) = .ok cs := by
  induction cs generalizing start with
  | nil => simp [escape, unescapeFrom]
  | cons c cs ih =>
    rw [escape_cons]
    obtain ⟨hc, -, -, hamp, -⟩ | ⟨name, hc, hnamed, hname⟩ := escapeChar_cases c
    · rw [hc, List.singleton_append, unescapeFrom, if_neg hamp, ih]
      rfl
    · have hend := upToEnd_append hname (escape cs)
      rw [hc, List.cons_append, List.append_assoc, List.singleton_append, unescapeFrom,
        if_pos rfl]
      split
      · next hnone =>
        rw [hend] at hnone
        contradiction
      · next name' after hsome =>
        rw [hend, Option.some.injEq, Prod.mk.injEq] at hsome
        obtain ⟨rfl, rfl⟩ := hsome
        rw [referencedChar_of_named hnamed hname]
        dsimp only
        rw [ih]
        rfl

theorem unescape_escape (cs : List Char) : unescape (escape cs) = .ok cs :=
  unescapeFrom_escape _ _ cs

/-- Characters that are written as themselves. -/
theorem escape_eq_self {cs : List Char} (hcs : ∀ c ∈ cs, escapeChar c = [c]) : escape cs = cs := by
  induction cs with
  | nil => rfl
  | cons c cs ih =>
    rw [escape_cons, hcs c List.mem_cons_self, ih fun d hd => hcs d (List.mem_cons_of_mem _ hd)]
    rfl

theorem escape_ne_nil {cs : List Char} (hcs : cs ≠ []) : escape cs ≠ [] := by
  obtain ⟨c, cs, rfl⟩ := List.exists_cons_of_ne_nil hcs
  obtain ⟨hc, -⟩ | ⟨name, hc, -⟩ := escapeChar_cases c
  · simp [escape_cons, hc]
  · simp [escape_cons, hc]

/-! ## Names -/

/-- A character that has no meaning of its own in a tag. -/
def isPlain (c : Char) : Bool :=
  !isSpace c && c ≠ '=' && c ≠ '<' && c ≠ '>' && c ≠ '"' && c ≠ '\'' && c ≠ '/' && c ≠ '!' &&
    c ≠ '?'

/-- The characters that have one. -/
def meaningful : List Char :=
  [' ', '\r', '\n', '\t', '=', '<', '>', '"', '\'', '/', '!', '?']

/-- What holds of no character with a meaning holds of plain characters only. -/
theorem isPlain_of {p : Char → Bool} (hp : (meaningful.all fun d => !p d) = true) {c : Char}
    (hc : p c = true) : isPlain c = true := by
  have hne (d : Char) (hd : d ∈ meaningful) : c ≠ d := by
    rintro rfl
    have hnot := List.all_eq_true.mp hp c hd
    rw [hc] at hnot
    contradiction
  simp only [meaningful, List.forall_mem_cons] at hne
  simp [isPlain, isSpace, hne]

/-- A name that can stand in a tag. -/
structure IsPlain (name : List Char) : Prop where
  nonempty : name ≠ []
  plain : ∀ c ∈ name, isPlain c = true

theorem isPlain_of_all {name : List Char} (h : (!name.isEmpty && name.all isPlain) = true) :
    IsPlain name := by
  rw [Bool.and_eq_true, List.all_eq_true] at h
  exact ⟨by simpa using h.1, h.2⟩

/-- What a plain character is not. -/
structure PlainChar (c : Char) : Prop where
  space : isSpace c = false
  equals : c ≠ '='
  less : c ≠ '<'
  greater : c ≠ '>'
  quote : c ≠ '"'
  apostrophe : c ≠ '\''
  slash : c ≠ '/'
  bang : c ≠ '!'
  question : c ≠ '?'

theorem plainChar_of_isPlain {c : Char} (h : isPlain c = true) : PlainChar c := by
  simp only [isPlain, Bool.and_eq_true, Bool.not_eq_true', decide_eq_true_eq] at h
  obtain ⟨⟨⟨⟨⟨⟨⟨⟨h₁, h₂⟩, h₃⟩, h₄⟩, h₅⟩, h₆⟩, h₇⟩, h₈⟩, h₉⟩ := h
  exact ⟨h₁, h₂, h₃, h₄, h₅, h₆, h₇, h₈, h₉⟩

theorem IsPlain.char {name : List Char} (h : IsPlain name) {c : Char} (hc : c ∈ name) :
    PlainChar c := plainChar_of_isPlain (h.plain c hc)

/-! ## Where a tag ends -/

/-- An attribute as it is written behind a name or another attribute. -/
def writtenAttribute (a : String × String) : List Char :=
  ' ' :: (a.1.toList ++ '=' :: '"' :: (escape a.2.toList ++ ['"']))

/-- What stands in a tag: a name and attributes. -/
def tagContent (name : String) (attributes : List (String × String)) : List Char :=
  name.toList ++ attributes.flatMap writtenAttribute

/-- Plain names with values. -/
def PlainKeys (attributes : List (String × String)) : Prop :=
  ∀ a ∈ attributes, IsPlain a.1.toList

theorem upToTagEnd_append {xs : List Char} (hxs : ∀ c ∈ xs, c ≠ '>' ∧ c ≠ '"' ∧ c ≠ '\'')
    (cs : List Char) :
    upToTagEnd none (xs ++ cs) =
      (upToTagEnd none cs).map fun (content, rest) => (xs ++ content, rest) := by
  induction xs with
  | nil => simp
  | cons c xs ih =>
    obtain ⟨hgt, hquot, hapos⟩ := hxs c List.mem_cons_self
    have hquote : (decide (c = '"') || decide (c = '\'')) = false := by simp [hquot, hapos]
    rw [List.cons_append, upToTagEnd, if_neg hgt, hquote, if_neg (by decide),
      ih fun d hd => hxs d (List.mem_cons_of_mem _ hd), Option.map_map]
    rfl

/-- Between quotes a tag does not end. -/
theorem upToTagEnd_quoted {xs : List Char} (hxs : '"' ∉ xs) (cs : List Char) :
    upToTagEnd (some '"') (xs ++ '"' :: cs) =
      (upToTagEnd none cs).map fun (content, rest) => (xs ++ '"' :: content, rest) := by
  induction xs with
  | nil => rfl
  | cons c xs ih =>
    have hc : c ≠ '"' := by
      rintro rfl
      exact hxs List.mem_cons_self
    rw [List.cons_append, upToTagEnd, if_neg hc, ih fun h => hxs (List.mem_cons_of_mem _ h),
      Option.map_map]
    rfl

theorem upToTagEnd_attribute {a : String × String} (ha : IsPlain a.1.toList) (cs : List Char) :
    upToTagEnd none (writtenAttribute a ++ cs) =
      (upToTagEnd none cs).map fun (content, rest) => (writtenAttribute a ++ content, rest) := by
  have hkey : ∀ c ∈ ' ' :: (a.1.toList ++ ['=']), c ≠ '>' ∧ c ≠ '"' ∧ c ≠ '\'' := by
    intro c hc
    simp only [List.mem_cons, List.mem_append, List.not_mem_nil, or_false] at hc
    rcases hc with rfl | hc | rfl
    · decide
    · exact ⟨(ha.char hc).greater, (ha.char hc).quote, (ha.char hc).apostrophe⟩
    · decide
  have hvalue : '"' ∉ escape a.2.toList := fun h => (mem_escape h).2.2.2 rfl
  have hsplit : writtenAttribute a ++ cs =
      (' ' :: (a.1.toList ++ ['='])) ++ '"' :: (escape a.2.toList ++ '"' :: cs) := by
    simp [writtenAttribute]
  rw [hsplit, upToTagEnd_append hkey, upToTagEnd, if_neg (by decide), if_pos (by decide),
    upToTagEnd_quoted hvalue, Option.map_map, Option.map_map]
  congr 1
  funext p
  simp [writtenAttribute]

theorem upToTagEnd_tagContent {name : String} {attributes : List (String × String)}
    (hname : IsPlain name.toList) (hkeys : PlainKeys attributes) (cs : List Char) :
    upToTagEnd none (tagContent name attributes ++ cs) =
      (upToTagEnd none cs).map fun (content, rest) =>
        (tagContent name attributes ++ content, rest) := by
  have hplain : ∀ c ∈ name.toList, c ≠ '>' ∧ c ≠ '"' ∧ c ≠ '\'' := fun c hc =>
    ⟨(hname.char hc).greater, (hname.char hc).quote, (hname.char hc).apostrophe⟩
  have hattributes : upToTagEnd none (attributes.flatMap writtenAttribute ++ cs) =
      (upToTagEnd none cs).map fun (content, rest) =>
        (attributes.flatMap writtenAttribute ++ content, rest) := by
    induction attributes with
    | nil => simp
    | cons a attributes ih =>
      rw [List.flatMap_cons, List.append_assoc, upToTagEnd_attribute (hkeys a List.mem_cons_self),
        ih fun b hb => hkeys b (List.mem_cons_of_mem _ hb), Option.map_map]
      congr 1
      funext p
      simp
  rw [tagContent, List.append_assoc, upToTagEnd_append hplain, hattributes, Option.map_map]
  congr 1
  funext p
  simp

/-! ## Kinds of tags -/

theorem tagContent_eq_cons {name : String} (hname : IsPlain name.toList)
    (attributes : List (String × String)) :
    ∃ c cs, tagContent name attributes = c :: cs ∧ PlainChar c := by
  obtain ⟨c, cs, hc⟩ := List.exists_cons_of_ne_nil hname.nonempty
  refine ⟨c, cs ++ attributes.flatMap writtenAttribute, by rw [tagContent, hc]; rfl, ?_⟩
  exact hname.char (by rw [hc]; exact List.mem_cons_self)

/-- A tag does not end in a slash of its own. -/
theorem tagContent_eq_concat {name : String} (hname : IsPlain name.toList)
    (attributes : List (String × String)) :
    ∃ cs c, tagContent name attributes = cs ++ [c] ∧ c ≠ '/' := by
  rcases List.eq_nil_or_concat attributes with rfl | ⟨before, a, rfl⟩
  · obtain ⟨cs, c, hc⟩ := (List.eq_nil_or_concat name.toList).resolve_left hname.nonempty
    refine ⟨cs, c, by simp [tagContent, hc], (hname.char ?_).slash⟩
    simp [hc]
  · refine ⟨name.toList ++ before.flatMap writtenAttribute ++
      ' ' :: (a.1.toList ++ '=' :: '"' :: escape a.2.toList), '"', ?_, by decide⟩
    simp [tagContent, writtenAttribute]

theorem stripEndChars_slash (cs : List Char) : stripEndChars ['/'] (cs ++ ['/']) = some cs := by
  simp [stripEndChars, stripStartChars]

theorem stripEndChars_of_ne {c : Char} (hc : c ≠ '/') (cs : List Char) :
    stripEndChars ['/'] (cs ++ [c]) = none := by
  simp [stripEndChars, stripStartChars, hc.symm]

/-- What a tag is, by what stands between its brackets. -/
def kindOfTag : (content : List Char) → TokenKind
  | '/' :: name => .closing name
  | content =>
    match stripEndChars ['/'] content with
    | some content => .empty content
    | none => .opening content

theorem kindOfTag_of_ne {content : List Char} (h : ∀ name, content ≠ '/' :: name) :
    kindOfTag content =
      match stripEndChars ['/'] content with
      | some content => .empty content
      | none => .opening content := by
  unfold kindOfTag
  split
  · exact absurd rfl (h _)
  · rfl

/-- What begins with neither of the marks of other markup is a tag. -/
theorem scanMarkup_tag {start : Nat} {c : Char} {cs content rest : List Char} (hbang : c ≠ '!')
    (hquestion : c ≠ '?') (hend : upToTagEnd none (c :: cs) = some (content, rest)) :
    scanMarkup start (c :: cs) = .ok (kindOfTag content, rest) := by
  unfold scanMarkup
  dsimp only
  split
  · next heq => exact absurd (List.cons.inj heq).1 hbang
  · next heq => exact absurd (List.cons.inj heq).1 hbang
  · next heq => exact absurd (List.cons.inj heq).1 hbang
  · next heq => exact absurd (List.cons.inj heq).1 hbang
  · next heq => exact absurd (List.cons.inj heq).1 hquestion
  · rw [hend]
    dsimp only
    split
    · rfl
    · next hslash =>
      rw [kindOfTag_of_ne hslash]
      cases stripEndChars ['/'] content <;> rfl

theorem kindOfTag_opening {name : String} (hname : IsPlain name.toList)
    (attributes : List (String × String)) :
    kindOfTag (tagContent name attributes) = .opening (tagContent name attributes) := by
  obtain ⟨c, cs, hcons, hc⟩ := tagContent_eq_cons hname attributes
  obtain ⟨before, d, hconcat, hd⟩ := tagContent_eq_concat hname attributes
  have hslash : ∀ name', tagContent name attributes ≠ '/' :: name' := by
    intro name' h
    rw [hcons] at h
    exact hc.slash (List.cons.inj h).1
  rw [kindOfTag_of_ne hslash, hconcat, stripEndChars_of_ne hd]

theorem kindOfTag_empty {name : String} (hname : IsPlain name.toList)
    (attributes : List (String × String)) :
    kindOfTag (tagContent name attributes ++ ['/']) = .empty (tagContent name attributes) := by
  obtain ⟨c, cs, hcons, hc⟩ := tagContent_eq_cons hname attributes
  have hslash : ∀ name', tagContent name attributes ++ ['/'] ≠ '/' :: name' := by
    intro name' h
    rw [hcons] at h
    exact hc.slash (List.cons.inj h).1
  rw [kindOfTag_of_ne hslash, stripEndChars_slash]

/-- An opening tag, behind its bracket. -/
theorem scanMarkup_opening {name : String} {attributes : List (String × String)}
    (hname : IsPlain name.toList) (hkeys : PlainKeys attributes) (start : Nat)
    (rest : List Char) :
    scanMarkup start (tagContent name attributes ++ '>' :: rest) =
      .ok (.opening (tagContent name attributes), rest) := by
  obtain ⟨c, cs, hcons, hc⟩ := tagContent_eq_cons hname attributes
  have hend := upToTagEnd_tagContent hname hkeys ('>' :: rest)
  rw [upToTagEnd, if_pos rfl, Option.map_some] at hend
  dsimp only at hend
  rw [List.append_nil] at hend
  rw [← kindOfTag_opening hname]
  rw [hcons, List.cons_append] at hend ⊢
  exact scanMarkup_tag hc.bang hc.question hend

/-- A tag that closes itself, behind its bracket. -/
theorem scanMarkup_empty {name : String} {attributes : List (String × String)}
    (hname : IsPlain name.toList) (hkeys : PlainKeys attributes) (start : Nat)
    (rest : List Char) :
    scanMarkup start (tagContent name attributes ++ '/' :: '>' :: rest) =
      .ok (.empty (tagContent name attributes), rest) := by
  obtain ⟨c, cs, hcons, hc⟩ := tagContent_eq_cons hname attributes
  have hend := upToTagEnd_tagContent hname hkeys ('/' :: '>' :: rest)
  rw [upToTagEnd, if_neg (by decide), if_neg (by decide), upToTagEnd, if_pos rfl,
    Option.map_some, Option.map_some] at hend
  rw [← kindOfTag_empty hname]
  rw [hcons, List.cons_append] at hend ⊢
  exact scanMarkup_tag hc.bang hc.question hend

/-- A closing tag, behind its bracket. -/
theorem scanMarkup_closing {name : List Char} (hname : IsPlain name) (start : Nat)
    (rest : List Char) :
    scanMarkup start ('/' :: (name ++ '>' :: rest)) = .ok (.closing name, rest) := by
  have hplain : ∀ c ∈ '/' :: name, c ≠ '>' ∧ c ≠ '"' ∧ c ≠ '\'' := by
    intro c hc
    rcases List.mem_cons.mp hc with rfl | hc
    · decide
    · exact ⟨(hname.char hc).greater, (hname.char hc).quote, (hname.char hc).apostrophe⟩
  have hend := upToTagEnd_append hplain ('>' :: rest)
  rw [upToTagEnd, if_pos rfl, Option.map_some] at hend
  dsimp only at hend
  rw [List.append_nil, List.cons_append] at hend
  exact scanMarkup_tag (by decide) (by decide) hend

/-! ## Where other markup ends -/

/-- Markup ends behind its last character if it could not have ended before. -/
theorem upToMark_append (ends : List Char → Bool) (xs seen : List Char)
    (hxs : ∀ before after, xs = before ++ '>' :: after → ends (before.reverse ++ seen) = false)
    (hend : ends (xs.reverse ++ seen) = true) (rest : List Char) :
    upToMark ends seen (xs ++ '>' :: rest) = some (seen.reverse ++ xs, rest) := by
  induction xs generalizing seen with
  | nil =>
    have hnow : ends seen = true := hend
    rw [List.nil_append, upToMark, if_pos (by simp [hnow]), List.append_nil]
  | cons c xs ih =>
    have hnot : ¬ (decide (c = '>') && ends seen) = true := by
      rw [Bool.and_eq_true, decide_eq_true_eq]
      rintro ⟨rfl, hnow⟩
      have hbefore := hxs [] xs rfl
      rw [List.reverse_nil, List.nil_append, hnow] at hbefore
      contradiction
    have hmore := ih (c :: seen) (fun before after hsplit => ?_) ?_
    · rw [List.cons_append, upToMark, if_neg hnot, hmore]
      simp
    · have hbefore := hxs (c :: before) after (by rw [hsplit]; rfl)
      simpa using hbefore
    · simpa using hend

theorem infix_of_concat {ps text : List Char} {p c : Char} (hne : p ≠ c)
    (h : ps ++ [p] <:+: text ++ [c]) : ps ++ [p] <:+: text := by
  obtain h | h := List.infix_concat_iff.mp h
  · obtain h | ⟨ps', heq, -⟩ := List.suffix_concat_iff.mp h
    · simp at h
    · exact absurd (List.cons.inj (List.append_inj_right' heq rfl)).1 hne
  · exact h

theorem infix_of_cons {ps text : List Char} {p c : Char} (hne : p ≠ c)
    (h : p :: ps <:+: c :: text) : p :: ps <:+: text := by
  obtain h | h := List.infix_cons_iff.mp h
  · exact absurd (List.cons_prefix_cons.mp h).1 hne
  · exact h

/-- What was seen last, and before that. -/
theorem eq_append_of_ends {a b : Char} {before : List Char}
    (hends : (before.reverse.head? = some a && before.reverse.tail.head? = some b) = true) :
    ∃ first, before = first ++ [b, a] := by
  rw [Bool.and_eq_true, decide_eq_true_eq, decide_eq_true_eq] at hends
  obtain ⟨hlast, hnext⟩ := hends
  rw [← List.reverse_reverse before]
  cases hr : before.reverse with
  | nil => simp [hr] at hlast
  | cons x xs =>
    rw [hr] at hlast hnext
    obtain rfl : x = a := Option.some.inj hlast
    cases xs with
    | nil => simp at hnext
    | cons y ys =>
      obtain rfl : y = b := Option.some.inj hnext
      exact ⟨ys.reverse, by simp⟩

/-- The text of a comment: it does not end the comment. -/
def IsComment (text : List Char) : Prop := ¬ ['-', '-', '>'] <:+: text

/-- The text of a raw section: it does not end the section. -/
def IsRaw (text : List Char) : Prop := ¬ [']', ']', '>'] <:+: text

/-- The text of an instruction: it does not end the instruction, not with its mark either. -/
def IsInstruction (text : List Char) : Prop := ¬ ['?', '>'] <:+: '?' :: text

/-- A comment, behind its bracket and with the mark in front. -/
theorem scanComment_written {text : List Char} (htext : IsComment text) (rest : List Char) :
    scanComment ('!' :: '-' :: '-' :: (text ++ '-' :: '-' :: '>' :: rest)) =
      some (.ok .silent, rest) := by
  have hmark := upToMark_append commentEnds (['!', '-', '-'] ++ text ++ ['-', '-']) []
    (fun before after hsplit => ?_) (by simp [commentEnds]) rest
  · rw [scanComment]
    simp only [List.append_assoc, List.cons_append, List.nil_append] at hmark
    rw [hmark]
    rfl
  · rw [List.append_nil, Bool.eq_false_iff]
    intro hends
    rw [commentEnds, Bool.and_assoc, Bool.and_eq_true, decide_eq_true_eq,
      List.length_reverse] at hends
    obtain ⟨hlength, hends⟩ := hends
    obtain ⟨first, rfl⟩ := eq_append_of_ends hends
    -- the hyphens at the beginning are not those that end the comment
    have hthree : 3 ≤ first.length := by
      simp only [List.length_append, List.length_cons, List.length_nil] at hlength
      omega
    have hinside : text ++ ['-', '-'] = first.drop 3 ++ (['-', '-'] ++ '>' :: after) := by
      rw [← List.drop_append_of_le_length hthree, ← List.append_assoc, ← hsplit]
      rfl
    have hinfix : ['-', '-'] ++ ['>'] <:+: text ++ ['-'] ++ ['-'] :=
      ⟨first.drop 3, after, by simp [hinside]⟩
    exact htext (infix_of_concat (by decide) (infix_of_concat (by decide) hinfix))

/-- A raw section, behind its bracket and with the mark in front. -/
theorem scanRaw_written {text : List Char} (htext : IsRaw text) (rest : List Char) :
    scanRaw ("![CDATA[".toList ++ (text ++ ']' :: ']' :: '>' :: rest)) =
      some (.ok (.raw text), rest) := by
  have hmark := upToMark_append rawEnds ("![CDATA[".toList ++ text ++ [']', ']']) []
    (fun before after hsplit => ?_) (by simp [rawEnds]) rest
  · rw [scanRaw]
    simp only [List.append_assoc, List.cons_append, List.nil_append] at hmark
    rw [hmark]
    simp [stripStartChars, rawText]
  · rw [List.append_nil, Bool.eq_false_iff]
    intro hends
    obtain ⟨first, rfl⟩ := eq_append_of_ends hends
    have hinfix : [']', ']'] ++ ['>'] <:+: "![CDATA[".toList ++ text ++ [']'] ++ [']'] :=
      ⟨first, after, by rw [List.append_assoc _ [']'] [']'], List.singleton_append, hsplit]; simp⟩
    have hfront := infix_of_concat (by decide) (infix_of_concat (by decide) hinfix)
    simp only [String.reduceToList, List.cons_append, List.nil_append] at hfront
    iterate 8 replace hfront := infix_of_cons (by decide) hfront
    exact htext hfront

/-- An instruction, behind its bracket and with the mark in front. -/
theorem scanInstruction_written {text : List Char} (htext : IsInstruction text)
    (rest : List Char) :
    scanInstruction ('?' :: (text ++ '?' :: '>' :: rest)) = some (.ok .silent, rest) := by
  have hmark := upToMark_append instructionEnds ('?' :: text ++ ['?']) []
    (fun before after hsplit => ?_) (by simp [instructionEnds]) rest
  · rw [scanInstruction]
    simp only [List.append_assoc, List.cons_append, List.nil_append] at hmark
    rw [hmark]
    simp
  · rw [List.append_nil, Bool.eq_false_iff]
    intro hends
    rw [instructionEnds, decide_eq_true_eq, List.head?_reverse] at hends
    obtain ⟨first, rfl⟩ := List.getLast?_eq_some_iff.mp hends
    have hinfix : ['?'] ++ ['>'] <:+: '?' :: text ++ ['?'] :=
      ⟨first, after, by rw [hsplit]; simp⟩
    exact htext (infix_of_concat (by decide) hinfix)

/-! ## Nodes of tags -/

theorem cutChars_append {sep : Char} {xs : List Char} (hxs : sep ∉ xs) (rest : List Char) :
    cutChars sep (xs ++ sep :: rest) = some (xs, rest) :=
  cutChars_eq_some_iff.2 ⟨hxs, rfl⟩

/-- An attribute is read with its value still escaped. -/
theorem nextAttribute_written {a : String × String} (ha : IsPlain a.1.toList)
    {seen : List RawAttribute} (hseen : ∀ r ∈ seen, r.key ≠ a.1.toList) (total position : Nat)
    (rest : List Char) :
    ∃ start position', nextAttribute total seen position (writtenAttribute a ++ rest) =
      .ok (some (⟨a.1.toList, escape a.2.toList, start⟩, position', rest)) := by
  obtain ⟨k, ks, hkey⟩ := List.exists_cons_of_ne_nil ha.nonempty
  have hchar : ∀ c ∈ k :: ks, PlainChar c := fun c hc => ha.char (by rwa [hkey])
  have hks : ∀ c ∈ ks, (!isKeyEnd c) = true := by
    intro c hc
    have hplain := hchar c (List.mem_cons_of_mem _ hc)
    simp [isKeyEnd, hplain.space, hplain.equals]
  have hvalue : '"' ∉ escape a.2.toList := fun h => (mem_escape h).2.2.2 rfl
  have hwritten : writtenAttribute a ++ rest =
      ' ' :: k :: (ks ++ '=' :: '"' :: (escape a.2.toList ++ '"' :: rest)) := by
    simp [writtenAttribute, hkey]
  have hblank : (writtenAttribute a ++ rest).dropWhile isSpace =
      k :: (ks ++ '=' :: '"' :: (escape a.2.toList ++ '"' :: rest)) := by
    rw [hwritten, List.dropWhile_cons_of_pos rfl,
      List.dropWhile_cons_of_neg (by simp [(hchar k List.mem_cons_self).space])]
  have hname : (ks ++ '=' :: '"' :: (escape a.2.toList ++ '"' :: rest)).takeWhile
      (fun c => !isKeyEnd c) = ks := by
    rw [List.takeWhile_append_of_pos hks, List.takeWhile_cons_of_neg (by decide), List.append_nil]
  have hbehind : (ks ++ '=' :: '"' :: (escape a.2.toList ++ '"' :: rest)).dropWhile
      (fun c => !isKeyEnd c) = '=' :: '"' :: (escape a.2.toList ++ '"' :: rest) := by
    rw [List.dropWhile_append_of_pos hks, List.dropWhile_cons_of_neg (by decide)]
  have hfind : seen.find? (fun r => r.key == a.1.toList) = none := by
    rw [List.find?_eq_none]
    intro r hr
    simpa using hseen r hr
  unfold nextAttribute
  dsimp only
  rw [hblank]
  dsimp only
  rw [hname, hbehind, ← hkey, List.dropWhile_cons_of_neg (by decide)]
  dsimp only
  rw [if_neg (by decide), hfind, List.dropWhile_cons_of_neg (by decide)]
  dsimp only
  rw [if_pos (by decide), cutChars_append hvalue]
  exact ⟨_, _, rfl⟩

/-- Attributes whose keys differ are read in order. -/
theorem attributesFrom_written {attributes : List (String × String)} (hkeys : PlainKeys attributes)
    (hdistinct : (attributes.map Prod.fst).Nodup) (seen : List RawAttribute)
    (hseen : ∀ r ∈ seen, ∀ a ∈ attributes, r.key ≠ a.1.toList) {fuel : Nat}
    (hfuel : attributes.length < fuel) (total position : Nat) :
    attributesFrom total fuel seen position (attributes.flatMap writtenAttribute) =
      .ok attributes := by
  induction attributes generalizing seen fuel position with
  | nil =>
    obtain ⟨fuel, rfl⟩ := Nat.exists_eq_add_one_of_ne_zero (Nat.ne_of_gt hfuel)
    rfl
  | cons a as ih =>
    obtain ⟨fuel, rfl⟩ := Nat.exists_eq_add_one_of_ne_zero (Nat.ne_of_gt (Nat.zero_lt_of_lt hfuel))
    have hfuel' : as.length < fuel := Nat.lt_of_succ_lt_succ hfuel
    obtain ⟨hnew, hdistinct'⟩ := List.nodup_cons.mp hdistinct
    obtain ⟨start, position', hnext⟩ := nextAttribute_written (hkeys a List.mem_cons_self)
      (fun r hr => hseen r hr a List.mem_cons_self) total position (as.flatMap writtenAttribute)
    have hmore := ih (fun b hb => hkeys b (List.mem_cons_of_mem _ hb)) hdistinct'
      (⟨a.1.toList, escape a.2.toList, start⟩ :: seen) (fun r hr b hb => ?_) hfuel' position'
    · rw [List.flatMap_cons, attributesFrom, hnext]
      dsimp only
      rw [unescape_escape]
      dsimp only
      rw [hmore]
      dsimp only
      rw [String.ofList_toList, String.ofList_toList]
    · rcases List.mem_cons.mp hr with rfl | hr
      · intro heq
        rw [String.toList_inj] at heq
        exact hnew (heq ▸ List.mem_map_of_mem hb)
      · exact hseen r hr b (List.mem_cons_of_mem _ hb)

theorem length_le_written (attributes : List (String × String)) :
    attributes.length ≤ (attributes.flatMap writtenAttribute).length := by
  induction attributes with
  | nil => exact Nat.le_refl _
  | cons a as ih =>
    rw [List.flatMap_cons, List.length_append, writtenAttribute, List.length_cons,
      List.length_cons]
    omega

/-- **A tag is read as it was put together.** -/
theorem nodeOfTag_tagContent {name : String} {attributes : List (String × String)}
    (hname : IsPlain name.toList) (hkeys : PlainKeys attributes)
    (hdistinct : (attributes.map Prod.fst).Nodup) :
    nodeOfTag (tagContent name attributes) = .ok { name, attributes } := by
  have hplain : ∀ c ∈ name.toList, (!isSpace c) = true := fun c hc => by
    simp [(hname.char hc).space]
  have htail : ∀ cs : List Char, cs = attributes.flatMap writtenAttribute →
      cs.takeWhile (fun c => !isSpace c) = [] ∧ cs.dropWhile (fun c => !isSpace c) = cs := by
    rintro cs rfl
    cases attributes with
    | nil => exact ⟨rfl, rfl⟩
    | cons a as => exact ⟨rfl, rfl⟩
  obtain ⟨htake, hdrop⟩ := htail _ rfl
  have htagName : tagName (tagContent name attributes) = name.toList := by
    rw [tagName, tagContent, List.takeWhile_append_of_pos hplain, htake, List.append_nil]
  have htagTail :
      (tagTail (tagContent name attributes)).1 = attributes.flatMap writtenAttribute := by
    rw [tagTail, tagContent, List.dropWhile_append_of_pos hplain, hdrop]
  have hfuel := Nat.lt_succ_of_le (length_le_written attributes)
  unfold nodeOfTag
  dsimp only
  rw [htagTail, attributesFrom_written hkeys hdistinct [] (by simp) hfuel, htagName,
    String.ofList_toList]

theorem closingName_of_isPlain {name : List Char} (hname : IsPlain name) :
    closingName name = name := by
  have hreverse : name.reverse.dropWhile isSpace = name.reverse := by
    cases hr : name.reverse with
    | nil => rfl
    | cons c cs =>
      have hc : c ∈ name := by
        rw [← List.mem_reverse, hr]
        exact List.mem_cons_self
      rw [List.dropWhile_cons_of_neg (by simp [(hname.char hc).space])]
  rw [closingName, hreverse, List.reverse_reverse]
  split
  · rfl
  · rfl

/-! ## Reading on -/

/-- What the elements become with the rest of a document, which starts at a byte. -/
def readOn (b : Builder) (start : Nat) (cs : List Char) : Except Fault Builder :=
  match b.run (tokensFrom start cs).1 with
  | .error f => .error f
  | .ok b =>
    match (tokensFrom start cs).2 with
    | some f => .error f
    | none => .ok b

/-- A document without a byte order mark is read from its first byte on. -/
theorem readDocument_eq {source : String} (h : ∀ rest, source.toList ≠ '\uFEFF' :: rest) :
    readDocument source = (readOn {} 0 source.toList).bind fun b => b.root.map Node.children := by
  have htokens : tokens source.toList = tokensFrom 0 source.toList := by
    unfold tokens
    split
    · next c rest heq =>
      have hc : c ≠ '\uFEFF' := by
        rintro rfl
        exact h rest heq
      rw [if_neg hc, heq]
    · next heq => rw [heq, tokensFrom]
  rw [readDocument, htokens, readOn]
  dsimp only
  cases Builder.run {} (tokensFrom 0 source.toList).1 with
  | error f => rfl
  | ok b => cases (tokensFrom 0 source.toList).2 <;> rfl

/-- Wherever it stands in a document, reading what is in front of `cs'` leads from some
open elements to others. -/
def Leads (b : Builder) (cs : List Char) (b' : Builder) (cs' : List Char) : Prop :=
  ∀ start, ∃ start', readOn b start cs = readOn b' start' cs'

namespace Leads

variable {b b' b'' : Builder} {cs cs' cs'' rest : List Char}

theorem refl (b : Builder) (cs : List Char) : Leads b cs b cs := fun start => ⟨start, rfl⟩

theorem trans (h : Leads b cs b' cs') (h' : Leads b' cs' b'' cs'') : Leads b cs b'' cs'' := by
  intro start
  obtain ⟨start', heq⟩ := h start
  obtain ⟨start'', heq'⟩ := h' start'
  exact ⟨start'', heq.trans heq'⟩

/-- A token in front of the rest. -/
theorem token {kind : TokenKind} {after : List Char}
    (htokens : ∀ start, ∃ stop, tokensFrom start cs =
      (⟨kind, stop⟩ :: (tokensFrom stop after).1, (tokensFrom stop after).2))
    (hstep : ∀ stop, b.step ⟨kind, stop⟩ = .ok b') : Leads b cs b' after := by
  intro start
  obtain ⟨stop, heq⟩ := htokens start
  refine ⟨stop, ?_⟩
  rw [readOn, heq, Builder.run, hstep]
  rfl

theorem markup {kind : TokenKind} {after : List Char}
    (hscan : ∀ start, scanMarkup start rest = .ok (kind, after))
    (hstep : ∀ stop, b.step ⟨kind, stop⟩ = .ok b') : Leads b ('<' :: rest) b' after := by
  refine token (fun start => ⟨start + 1 + sizeOfChars rest - sizeOfChars after, ?_⟩) hstep
  rw [tokensFrom, if_pos rfl]
  split
  · next f heq =>
    rw [hscan] at heq
    contradiction
  · next kind' after' heq =>
    rw [hscan] at heq
    cases heq
    rfl

/-- Text, as far as the next markup or the end. -/
theorem textUpTo {raw : List Char} (hraw : raw ≠ []) (hless : '<' ∉ raw)
    (hrest : ∀ c ∈ rest.head?, c = '<') (hstep : ∀ stop, b.step ⟨.text raw, stop⟩ = .ok b') :
    Leads b (raw ++ rest) b' rest := by
  obtain ⟨c, raw, rfl⟩ := List.exists_cons_of_ne_nil hraw
  have hc : c ≠ '<' := by
    rintro rfl
    exact hless List.mem_cons_self
  have hmore : ∀ d ∈ raw, decide (d ≠ '<') = true := by
    intro d hd
    rw [decide_eq_true_eq]
    rintro rfl
    exact hless (List.mem_cons_of_mem _ hd)
  have htake : rest.takeWhile (fun d => decide (d ≠ '<')) = [] := by
    cases rest with
    | nil => rfl
    | cons d rest => rw [hrest d rfl, List.takeWhile_cons_of_neg (by decide)]
  have hdrop : rest.dropWhile (fun d => decide (d ≠ '<')) = rest := by
    cases rest with
    | nil => rfl
    | cons d rest => rw [hrest d rfl, List.dropWhile_cons_of_neg (by decide)]
  refine token (fun start => ⟨start + sizeOfChars (c :: raw), ?_⟩) hstep
  rw [List.cons_append, tokensFrom, if_neg hc, List.takeWhile_append_of_pos hmore,
    List.dropWhile_append_of_pos hmore, htake, hdrop, List.append_nil]

/-- Text, as far as the next markup. -/
theorem text {raw : List Char} (hraw : raw ≠ []) (hless : '<' ∉ raw)
    (hstep : ∀ stop, b.step ⟨.text raw, stop⟩ = .ok b') :
    Leads b (raw ++ '<' :: rest) b' ('<' :: rest) :=
  textUpTo hraw hless (fun _ hc => (Option.some.inj hc).symm) hstep

/-! ## Tags -/

theorem opening {name : String} {attributes : List (String × String)}
    (hname : IsPlain name.toList) (hkeys : PlainKeys attributes)
    (hdistinct : (attributes.map Prod.fst).Nodup) (b : Builder) (rest : List Char) :
    Leads b ('<' :: (tagContent name attributes ++ '>' :: rest))
      { b with stack := { name, attributes } :: b.stack } rest := by
  refine markup (fun start => scanMarkup_opening hname hkeys start rest) fun stop => ?_
  rw [Builder.step]
  dsimp only
  rw [nodeOfTag_tagContent hname hkeys hdistinct]

theorem empty {name : String} {attributes : List (String × String)}
    (hname : IsPlain name.toList) (hkeys : PlainKeys attributes)
    (hdistinct : (attributes.map Prod.fst).Nodup) (b : Builder) (rest : List Char) :
    Leads b ('<' :: (tagContent name attributes ++ '/' :: '>' :: rest))
      (b.attach { name, attributes }) rest := by
  refine markup (fun start => scanMarkup_empty hname hkeys start rest) fun stop => ?_
  rw [Builder.step]
  dsimp only
  rw [nodeOfTag_tagContent hname hkeys hdistinct]

theorem closing (top : Node) (hname : IsPlain top.name.toList) (below roots : List Node)
    (rest : List Char) :
    Leads ⟨top :: below, roots⟩ ('<' :: '/' :: (top.name.toList ++ '>' :: rest))
      (Builder.attach ⟨below, roots⟩ { top with children := top.children.reverse }) rest := by
  refine markup (fun start => scanMarkup_closing hname start rest) fun stop => ?_
  rw [Builder.step]
  dsimp only
  rw [closingName_of_isPlain hname, String.ofList_toList, if_pos rfl]

/-! ## Comments, raw sections and instructions -/

theorem comment {text : List Char} (htext : IsComment text) (b : Builder) (rest : List Char) :
    Leads b ('<' :: '!' :: '-' :: '-' :: (text ++ '-' :: '-' :: '>' :: rest)) b rest := by
  have hscan (start : Nat) :
      scanMarkup start ('!' :: '-' :: '-' :: (text ++ '-' :: '-' :: '>' :: rest)) =
        .ok (.silent, rest) := by
    unfold scanMarkup
    dsimp only
    rw [scanComment_written htext, finish]
    rfl
  exact markup hscan fun _ => rfl

theorem raw {text : List Char} (htext : IsRaw text) (b : Builder) (rest : List Char) :
    Leads b ('<' :: ("![CDATA[".toList ++ (text ++ ']' :: ']' :: '>' :: rest))) (b.write text)
      rest := by
  have hscan (start : Nat) :
      scanMarkup start ("![CDATA[".toList ++ (text ++ ']' :: ']' :: '>' :: rest)) =
        .ok (.raw text, rest) := by
    have hraw := scanRaw_written htext rest
    simp only [String.reduceToList, List.cons_append, List.nil_append] at hraw ⊢
    unfold scanMarkup
    dsimp only
    rw [hraw, finish]
    rfl
  exact markup hscan fun _ => rfl

theorem instruction {text : List Char} (htext : IsInstruction text) (b : Builder)
    (rest : List Char) :
    Leads b ('<' :: '?' :: (text ++ '?' :: '>' :: rest)) b rest := by
  have hscan (start : Nat) :
      scanMarkup start ('?' :: (text ++ '?' :: '>' :: rest)) = .ok (.silent, rest) := by
    unfold scanMarkup
    dsimp only
    rw [scanInstruction_written htext, finish]
    rfl
  exact markup hscan fun _ => rfl

/-! ## Texts -/

/-- Escaped text inside an element, as far as the next markup or the end. -/
theorem escapedUpTo (text : List Char) (htext : text ≠ []) (top : Node)
    (below roots : List Node) (hrest : ∀ c ∈ rest.head?, c = '<') :
    Leads ⟨top :: below, roots⟩ (escape text ++ rest)
      ⟨{ top with text := some (top.text.getD "" ++ String.ofList text) } :: below, roots⟩
      rest := by
  refine Leads.textUpTo (escape_ne_nil htext) (fun h => (mem_escape h).1 rfl) hrest fun stop => ?_
  rw [Builder.step]
  dsimp only
  rw [unescape_escape, if_neg (by simp)]
  unfold Builder.write
  cases htop : top.text <;> simp [htop]

/-- Escaped text inside an element. -/
theorem escaped (text : List Char) (htext : text ≠ []) (top : Node) (below roots : List Node)
    (rest : List Char) :
    Leads ⟨top :: below, roots⟩ (escape text ++ '<' :: rest)
      ⟨{ top with text := some (top.text.getD "" ++ String.ofList text) } :: below, roots⟩
      ('<' :: rest) :=
  escapedUpTo text htext top below roots fun _ hc => (Option.some.inj hc).symm

/-- Text outside of every element. -/
theorem outside (raw : List Char) (hraw : raw ≠ []) (hless : '<' ∉ raw) (roots : List Node)
    (rest : List Char) :
    Leads ⟨[], roots⟩ (raw ++ '<' :: rest) ⟨[], roots⟩ ('<' :: rest) :=
  Leads.text hraw hless fun _ => rfl

end Leads

/-- What was led to the end of a document is what all of it is read as. -/
theorem readOn_of_leads {b b' : Builder} {cs : List Char} (h : Leads b cs b' []) (start : Nat) :
    readOn b start cs = .ok b' := by
  obtain ⟨start', heq⟩ := h start
  rw [heq, readOn, tokensFrom]
  rfl

end ActionTree.Markup
