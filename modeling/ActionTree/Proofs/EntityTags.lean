import ActionTree.Proofs.Revalidation
import ActionTree.Proofs.Segments

/-!
# ActionTree.Proofs.EntityTags

What becomes of a tag that a client was told to compare with, when the client sends it back.

1. a tag is sent in quotes, and comes back in a list: in quotes, marked as weak or not, and
   with blanks around it (`ListedTag`);
2. a list of tags admits what one of them admits that stands alone (`admits_list_iff`);
3. a tag in quotes is read as what is between its quotes, if there is no comma in it.  The
   list is cut at every comma, one in quotes too, and all quotes at the ends of a tag are
   taken off, those of the tag itself too.

So a tag is recognised as itself and as nothing else as long as it is plain (`IsPlainTag`).
A tag that is not is not recognised, but for one case: between two commas in it an asterisk
is taken for the entry that admits all (`HasAsterisk`).
-/

namespace ActionTree

open Text Run

/-! ## Lists of tags -/

/-- A tag as it stands in a list: in quotes, marked as weak or not, with blanks around it. -/
structure ListedTag where
  tag : String
  weak : Bool := false
  front : List Char := []
  back : List Char := []
  blank : ∀ c ∈ front ++ back, isBlank c = true := by simp [isBlank]

namespace ListedTag

variable (e : ListedTag)

/-- The mark of weakness, if the tag has it. -/
def mark : List Char := if e.weak then ['W', '/'] else []

/-- The tag in quotes, behind its mark. -/
def quoted : List Char := e.mark ++ '"' :: (e.tag.toList ++ ['"'])

/-- What stands in a list for the tag. -/
def chars : List Char := e.front ++ e.quoted ++ e.back

/-- What stands in a list for the tag, as a text. -/
def text : String := String.ofList e.chars

/-- The tag admits another one if it is all that a client sends. -/
def Admits (tag : String) : Prop := validatorsAdmit e.text tag = true

end ListedTag

/-- Tags with commas between them. -/
def listOfTags (es : List ListedTag) : String :=
  String.ofList (List.intercalate [','] (es.map ListedTag.chars))

/-- A tag that can stand in quotes in a list: no comma is in it, and no quote at its ends. -/
structure IsPlainTag (tag : String) : Prop where
  noComma : ',' ∉ tag.toList
  first : tag.toList.head? ≠ some '"'
  last : tag.toList.getLast? ≠ some '"'

/-- An asterisk stands in a tag between two commas, with nothing but blanks around it. -/
def HasAsterisk (tag : String) : Prop :=
  ∃ piece ∈ (piecesOf ',' tag.toList).tail.dropLast, trimChars piece = ['*']

/-- An entry admits all, or is read as the tag. -/
def EntryAdmits (entry : List Char) (tag : String) : Prop :=
  trimChars entry = ['*'] ∨ tagOf (String.ofList (trimChars entry)) = tag

theorem validatorsAdmit_iff {cs : List Char} {tag : String} :
    validatorsAdmit (String.ofList cs) tag = true ↔ ∃ p ∈ piecesOf ',' cs, EntryAdmits p tag := by
  have hentry (p : List Char) : String.ofList p = "*" ↔ p = ['*'] := by
    rw [← String.toList_inj, String.toList_ofList]
    rfl
  simp [validatorsAdmit, pieces, EntryAdmits, trim, hentry]

theorem not_entryAdmits_nil {tag : String} (htag : tag ≠ "") : ¬ EntryAdmits [] tag := by
  rintro (h | h)
  · simp [trimChars, trimStart, trimEnd] at h
  · exact htag h.symm

/-- A list admits what one of its tags admits. -/
theorem admits_list_iff {es : List ListedTag} {tag : String} (htag : tag ≠ "") :
    validatorsAdmit (listOfTags es) tag = true ↔ ∃ e ∈ es, e.Admits tag := by
  simp only [ListedTag.Admits, ListedTag.text, validatorsAdmit_iff, listOfTags]
  by_cases hes : es = []
  · subst hes
    simp [piecesOf, not_entryAdmits_nil htag]
  · rw [piecesOf_intercalate ',' (by simpa using hes)]
    simp only [List.mem_flatMap, List.mem_map, exists_exists_and_eq_and]
    constructor
    · rintro ⟨p, ⟨e, he, hp⟩, hadmits⟩
      exact ⟨e, he, p, hp, hadmits⟩
    · rintro ⟨e, he, p, hp, hadmits⟩
      exact ⟨p, ⟨e, he, hp⟩, hadmits⟩

/-! ## Quotes -/

theorem dropQuotes_eq (cs : List Char) :
    dropQuotes cs = (cs.dropWhile fun c => decide (c = '"')).rdropWhile fun c => decide (c = '"') :=
  rfl

/-- A quote at the end is dropped. -/
theorem dropQuotes_concat (cs : List Char) : dropQuotes (cs ++ ['"']) = dropQuotes cs := by
  rw [dropQuotes_eq, dropQuotes_eq, List.dropWhile_append]
  split
  · next h =>
    rw [List.isEmpty_iff.1 h]
    rfl
  · rw [List.rdropWhile_concat_pos _ _ _ (by decide)]

/-- What stands in quotes is read without them. -/
theorem dropQuotes_quoted (cs : List Char) : dropQuotes ('"' :: (cs ++ ['"'])) = dropQuotes cs := by
  rw [← dropQuotes_concat cs, dropQuotes_eq, dropQuotes_eq,
    List.dropWhile_cons_of_pos (by decide)]

theorem dropQuotes_sublist (cs : List Char) : (dropQuotes cs).Sublist cs :=
  (List.rdropWhile_prefix _ _).sublist.trans (List.dropWhile_suffix _).sublist

/-- Nothing is dropped if there is no quote at either end. -/
theorem dropQuotes_eq_self_iff {cs : List Char} :
    dropQuotes cs = cs ↔ cs.head? ≠ some '"' ∧ cs.getLast? ≠ some '"' := by
  constructor
  · intro h
    constructor
    · intro hhead
      obtain ⟨rest, rfl⟩ := List.head?_eq_some_iff.1 hhead
      rw [dropQuotes_eq, List.dropWhile_cons_of_pos (by decide), ← dropQuotes_eq] at h
      have hlength := (dropQuotes_sublist rest).length_le
      rw [h, List.length_cons] at hlength
      omega
    · intro hlast
      obtain ⟨rest, rfl⟩ := List.getLast?_eq_some_iff.1 hlast
      rw [dropQuotes_concat] at h
      have hlength := (dropQuotes_sublist rest).length_le
      rw [h, List.length_append, List.length_singleton] at hlength
      omega
  · rintro ⟨hfirst, hlast⟩
    have hdrop : cs.dropWhile (fun c => decide (c = '"')) = cs := by
      cases cs with
      | nil => rfl
      | cons c cs => exact List.dropWhile_cons_of_neg (by simpa using hfirst)
    rw [dropQuotes_eq, hdrop]
    exact List.rdropWhile_eq_self_iff.2 fun hne => by
      rw [List.getLast?_eq_some_getLast hne] at hlast
      simpa using hlast

/-! ## Tags that come back -/

theorem dropWeak_quote (fuel : Nat) (cs : List Char) : dropWeak fuel ('"' :: cs) = '"' :: cs := by
  cases fuel <;> rfl

theorem isPlainTag_iff {tag : String} :
    IsPlainTag tag ↔ ',' ∉ tag.toList ∧ String.ofList (dropQuotes tag.toList) = tag := by
  have hself : String.ofList (dropQuotes tag.toList) = tag ↔
      dropQuotes tag.toList = tag.toList := by
    rw [← String.toList_inj, String.toList_ofList]
  rw [hself, dropQuotes_eq_self_iff]
  exact ⟨fun ⟨hcomma, hfirst, hlast⟩ => ⟨hcomma, hfirst, hlast⟩,
    fun ⟨hcomma, hfirst, hlast⟩ => ⟨hcomma, hfirst, hlast⟩⟩

theorem mem_of_mem_dropWeak {c : Char} {fuel : Nat} {cs : List Char} (h : c ∈ dropWeak fuel cs) :
    c ∈ cs := by
  fun_induction dropWeak fuel cs with
  | case1 fuel cs ih => exact List.mem_cons_of_mem _ (List.mem_cons_of_mem _ (ih h))
  | case2 => exact h

/-- Reading a tag adds nothing to it. -/
theorem mem_of_mem_tagOf {c : Char} {entry : String} (h : c ∈ (tagOf entry).toList) :
    c ∈ entry.toList := by
  rw [tagOf, String.toList_ofList] at h
  exact mem_of_mem_dropWeak ((dropQuotes_sublist _).subset h)

namespace ListedTag

variable {e : ListedTag}

theorem trimChars_chars (e : ListedTag) : trimChars e.chars = e.quoted := by
  have hfront : ∀ c ∈ e.front, isBlank c = true := fun c hc =>
    e.blank c (List.mem_append_left _ hc)
  have hback : ∀ c ∈ e.back, isBlank c = true := fun c hc =>
    e.blank c (List.mem_append_right _ hc)
  have hquote : isBlank '"' = false := rfl
  have hletter : isBlank 'W' = false := rfl
  rw [chars, quoted, mark]
  cases e.weak with
  | false => simpa using trimChars_surround hquote hquote hfront hback e.tag.toList
  | true =>
    simpa using trimChars_surround hletter hquote hfront hback ('/' :: '"' :: e.tag.toList)

/-- The mark of weakness and the quotes are taken off. -/
theorem tagOf_quoted (e : ListedTag) :
    tagOf (String.ofList e.quoted) = String.ofList (dropQuotes e.tag.toList) := by
  have hweak : dropWeak (String.ofList e.quoted).length e.quoted =
      '"' :: (e.tag.toList ++ ['"']) := by
    rw [quoted, mark]
    cases e.weak with
    | false => exact dropWeak_quote _ _
    | true => rw [String.length_ofList]; exact dropWeak_quote _ _
  rw [tagOf, String.toList_ofList, hweak, dropQuotes_quoted]

theorem comma_not_mem_blank {cs : List Char} (h : ∀ c ∈ cs, isBlank c = true) : ',' ∉ cs :=
  fun hmem => absurd (h ',' hmem) (by decide)

/-- No entry with a quote in it is an asterisk. -/
theorem trimChars_ne_asterisk {cs : List Char} (h : '"' ∈ cs) : trimChars cs ≠ ['*'] := by
  intro hasterisk
  have hmem := mem_trimChars (c := '"') rfl h
  rw [hasterisk] at hmem
  exact absurd hmem (by decide)

/-- What comes in front of a tag, its quote included, has no comma in it. -/
theorem comma_not_mem_opening (e : ListedTag) : ',' ∉ e.front ++ e.mark ++ ['"'] := by
  have hfront : ',' ∉ e.front := comma_not_mem_blank fun c hc =>
    e.blank c (List.mem_append_left _ hc)
  have hmark : ',' ∉ e.mark := by
    rw [mark]
    cases e.weak <;> decide
  simp [hfront, hmark]

/-- What comes behind a tag, its quote included, has no comma in it. -/
theorem comma_not_mem_closing (e : ListedTag) : ',' ∉ '"' :: e.back := by
  have hback : ',' ∉ e.back := comma_not_mem_blank fun c hc =>
    e.blank c (List.mem_append_right _ hc)
  simp [hback]

theorem chars_eq (e : ListedTag) :
    e.chars = (e.front ++ e.mark ++ ['"']) ++ e.tag.toList ++ '"' :: e.back := by
  simp [chars, quoted]

/-- A tag without commas is read as a whole, without the quotes at its ends. -/
theorem admits_iff_of_noComma {tag : String} (hcomma : ',' ∉ e.tag.toList) :
    e.Admits tag ↔ String.ofList (dropQuotes e.tag.toList) = tag := by
  have hchars : ',' ∉ e.chars := by
    rw [e.chars_eq, List.mem_append, List.mem_append, not_or, not_or]
    exact ⟨⟨e.comma_not_mem_opening, hcomma⟩, e.comma_not_mem_closing⟩
  have hquoted : e.quoted ≠ ['*'] := by
    rw [← e.trimChars_chars]
    exact trimChars_ne_asterisk (by simp [e.chars_eq])
  rw [Admits, text, validatorsAdmit_iff, piecesOf_of_not_mem hchars]
  simp only [List.mem_singleton, exists_eq_left, EntryAdmits, e.trimChars_chars, e.tagOf_quoted,
    hquoted, false_or]

/-- A tag with a comma in it admits itself only by an asterisk: each entry that it is cut into
is without commas, and the quotes are in the first and in the last one. -/
theorem admits_self_iff_of_comma (hcomma : ',' ∈ e.tag.toList) :
    e.Admits e.tag ↔ HasAsterisk e.tag := by
  obtain ⟨first, inner, last, hpieces, hcut⟩ :=
    piecesOf_surround e.comma_not_mem_opening e.comma_not_mem_closing hcomma
  rw [← e.chars_eq] at hcut
  have hentry {p : List Char} (hp : p ∈ piecesOf ',' e.chars) :
      EntryAdmits p e.tag ↔ trimChars p = ['*'] := by
    refine or_iff_left fun htag => ?_
    have hmem := mem_of_mem_tagOf (htag.symm ▸ hcomma)
    rw [String.toList_ofList] at hmem
    exact not_mem_of_mem_piecesOf hp (mem_of_mem_trimChars hmem)
  rw [Admits, text, validatorsAdmit_iff, HasAsterisk, hpieces, List.tail_cons, List.dropLast_concat]
  constructor
  · rintro ⟨p, hp, hadmits⟩
    have hasterisk := (hentry hp).1 hadmits
    rw [hcut] at hp
    rcases List.mem_cons.1 hp with rfl | hp
    · exact absurd hasterisk (trimChars_ne_asterisk (by simp))
    · rcases List.mem_append.1 hp with hp | hp
      · exact ⟨p, hp, hasterisk⟩
      · obtain rfl := List.mem_singleton.1 hp
        exact absurd hasterisk (trimChars_ne_asterisk (by simp))
  · rintro ⟨p, hp, hasterisk⟩
    have hmem : p ∈ piecesOf ',' e.chars := by
      rw [hcut]
      exact List.mem_cons_of_mem _ (List.mem_append_left _ hp)
    exact ⟨p, hmem, (hentry hmem).2 hasterisk⟩

/-- A tag admits itself if it is plain, or has an asterisk between commas. -/
theorem admits_self_iff (e : ListedTag) :
    e.Admits e.tag ↔ IsPlainTag e.tag ∨ HasAsterisk e.tag := by
  by_cases hcomma : ',' ∈ e.tag.toList
  · rw [admits_self_iff_of_comma hcomma]
    exact (or_iff_right fun hplain => hplain.noComma hcomma).symm
  · rw [admits_iff_of_noComma hcomma, isPlainTag_iff, HasAsterisk, piecesOf_of_not_mem hcomma]
    simp [hcomma]

/-- A tag is sent as it stands in a list, without blanks. -/
theorem validatorLines_some (tag : String) (date : Option Moment) :
    validatorLines (some tag) date =
      ("ETag: " ++ text { tag }) :: validatorLines none date := by
  have hline : "ETag: \"" ++ tag ++ "\"" = "ETag: " ++ text { tag } := by
    rw [← String.toList_inj]
    simp [text, chars, quoted, mark]
  rw [← hline]
  rfl

end ListedTag

/-! ## Requests -/

namespace Run

/-- **When a tag that was sent is recognised.**  A node with the text of a tag either finds
that the client's copy is current, or sends the text in quotes.  For a list of tags that the
client sends, it is current if one of them is read as the text.  The tag that was sent is read
as the text exactly if it is plain, or has an asterisk between two commas; any other tag
without commas is read as what is left of it without the quotes at its ends. -/
theorem sent_tag_is_recognised {h : Host} {n : Node} {s : State} {text : String}
    {date : Option Moment} (hi : h.registry.find? n.name = some .notModified)
    (hattr : h.attr? n "etag" s.scope = .ok (some text)) (htext : trim text ≠ "")
    (hdate : h.date? n s.scope = .ok date) :
    (StopsCurrent h n s ∨
      GoesOn h n s
        (("ETag: " ++ ListedTag.text { tag := trim text }) :: validatorLines none date)) ∧
    (∀ es, h.request.find? "If-None-Match" = some (listOfTags es) →
      (StopsCurrent h n s ↔ ∃ e ∈ es, e.Admits (trim text))) ∧
    (∀ e : ListedTag, e.tag = trim text →
      (e.Admits (trim text) ↔ IsPlainTag (trim text) ∨ HasAsterisk (trim text))) ∧
    (∀ e : ListedTag, ',' ∉ e.tag.toList →
      (e.Admits (trim text) ↔ String.ofList (dropQuotes e.tag.toList) = trim text)) := by
  have hn : n.Validates h s.scope (some (trim text)) date :=
    ⟨hi, Host.tag?_of_attr? hattr htext, hdate⟩
  refine ⟨?_, fun es hes => ?_, fun e he => ?_, fun e hcomma => e.admits_iff_of_noComma hcomma⟩
  · cases hcurrent : isCurrent h.request (some (trim text)) date with
    | true => exact .inl ((stopsCurrent_iff hn).2 hcurrent)
    | false =>
      rw [← ListedTag.validatorLines_some]
      exact .inr (goesOn_of_not_current hn hcurrent)
  · rw [stopsCurrent_iff hn, ← admits_list_iff htext]
    simp only [isCurrent, hes]
  · rw [← he]
    exact e.admits_self_iff

/-- A node with a tag. -/
def taggedNode (tag : String) : Node := { name := "not-modified", attributes := [("etag", tag)] }

/-- A client that sends tags. -/
def hostAsked (validators : String) : Host :=
  { Host.ofLibrary {} with request := [("If-None-Match", validators)] }

theorem taggedNode_validates (validators : String) {tag : String} {c : Context}
    (hattr : (hostAsked validators).attr? (taggedNode tag) "etag" c = .ok (some tag))
    (htrim : trim tag = tag) (htag : tag ≠ "") :
    (taggedNode tag).Validates (hostAsked validators) c (some tag) none := by
  have hspoken := Host.tag?_of_attr? hattr (by rwa [htrim])
  rw [htrim] at hspoken
  exact ⟨rfl, hspoken, rfl⟩

/-- Three tags in a list, the last of which is asked for. -/
theorem sent_tag_is_recognised_thirdOfThree :
    let h := hostAsked "W/\"a\", \"b \"c\" d\" , W/\"W/x\""
    let s := State.ofScope {}
    let es : List ListedTag := [{ tag := "a", weak := true },
      { tag := "b \"c\" d", front := [' '], back := [' '] },
      { tag := "W/x", weak := true, front := [' '] }]
    (h.registry.find? "not-modified" = some .notModified ∧
      h.attr? (taggedNode " W/x ") "etag" s.scope = .ok (some " W/x ") ∧ trim " W/x " ≠ "" ∧
      h.date? (taggedNode " W/x ") s.scope = .ok none ∧
      h.request.find? "If-None-Match" = some (listOfTags es) ∧ IsPlainTag (trim " W/x ")) ∧
    StopsCurrent h (taggedNode " W/x ") s := by
  intro h s es
  have hattr : h.attr? (taggedNode " W/x ") "etag" s.scope = .ok (some " W/x ") := by cbv
  have htext : trim " W/x " ≠ "" := by decide +kernel
  have hes : h.request.find? "If-None-Match" = some (listOfTags es) := by decide +kernel
  have hplain : IsPlainTag (trim " W/x ") :=
    ⟨by decide +kernel, by decide +kernel, by decide +kernel⟩
  have hdate : h.date? (taggedNode " W/x ") s.scope = .ok none := rfl
  have hall := sent_tag_is_recognised (n := taggedNode " W/x ") rfl hattr htext hdate
  refine ⟨⟨rfl, hattr, htext, hdate, hes, hplain⟩, (hall.2.1 es hes).2 ⟨es[2], by simp, ?_⟩⟩
  exact (hall.2.2.1 es[2] (by decide +kernel)).2 (.inl hplain)

/-- **A tag with a comma is not recognised as itself.**  The text is sent in quotes; when the
client sends that back, the node does not stop but sends it again.  And a text is taken for
current if a client has nothing but another tag that it is a part of. -/
theorem sent_tag_is_cut_at_commas :
    let h := hostAsked "\"a,b\""
    let s := State.ofScope {}
    GoesOn h (taggedNode "a,b") s ["ETag: \"a,b\""] ∧ StopsCurrent h (taggedNode "a") s := by
  intro h s
  have hwhole : (taggedNode "a,b").Validates h s.scope (some "a,b") none :=
    taggedNode_validates _ (by cbv) (by decide +kernel) (by decide +kernel)
  have hpart : (taggedNode "a").Validates h s.scope (some "a") none :=
    taggedNode_validates _ (by cbv) (by decide +kernel) (by decide +kernel)
  exact ⟨goesOn_of_not_current hwhole (by decide +kernel),
    (stopsCurrent_iff hpart).2 (by decide +kernel)⟩

end Run

end ActionTree
