import ActionTree.Proofs.DocumentText
import Mathlib.Data.Nat.Digits.Defs

/-!
# ActionTree.Proofs.XmlGrammar

The grammar of XML 1.0, production by production, for documents without a document type.

1. what the grammar asks for besides the shape of a document is part of the productions: the
   tags of an element have one name, the attributes of a tag have different ones, references
   stand for characters that may stand in a document, and no element has a name that XML keeps
   for itself;
2. the characters of every production may stand in a document (`IsElement.clean`,
   `IsDocument.clean`);
3. what was escaped is a value of an attribute (`isAttributeValue_escape`) and content of an
   element (`isContent_escape`), as long as its characters may stand in a document.
-/

namespace ActionTree.Xml

open Text Markup

/-! ## Characters -/

/-- The code points of the characters that may stand in a document. -/
def charRanges : List (Nat × Nat) :=
  [(0x9, 0xA), (0xD, 0xD), (0x20, 0xD7FF), (0xE000, 0xFFFD), (0x10000, 0x10FFFF)]

/-- A character that may stand in a document. -/
def isChar (c : Char) : Bool := isAmong charRanges c

/-- Characters that may stand in a document. -/
def Clean (cs : List Char) : Prop := ∀ c ∈ cs, isChar c = true

/-- White space. -/
def IsBlank (cs : List Char) : Prop := ∀ c ∈ cs, isSpace c = true

@[simp] theorem clean_nil : Clean [] := nofun

@[simp] theorem clean_cons {c : Char} {cs : List Char} :
    Clean (c :: cs) ↔ isChar c = true ∧ Clean cs := List.forall_mem_cons

@[simp] theorem clean_append {cs ds : List Char} : Clean (cs ++ ds) ↔ Clean cs ∧ Clean ds :=
  List.forall_mem_append

instance (cs : List Char) : Decidable (Clean cs) := List.decidableBAll _ _

instance (cs : List Char) : Decidable (IsBlank cs) := List.decidableBAll _ _

theorem isAmong_of_within {ranges wider : List (Nat × Nat)}
    (h : (ranges.all fun r => wider.any fun w => w.1 ≤ r.1 && r.2 ≤ w.2) = true) {c : Char}
    (hc : isAmong ranges c = true) : isAmong wider c = true := by
  obtain ⟨r, hr, hcr⟩ := List.any_eq_true.mp hc
  obtain ⟨w, hw, hrw⟩ := List.any_eq_true.mp (List.all_eq_true.mp h r hr)
  simp only [Bool.and_eq_true, decide_eq_true_iff] at hcr hrw
  exact List.any_eq_true.mpr ⟨w, hw, by simp; omega⟩

theorem isBlank_nil : IsBlank [] := nofun

theorem IsBlank.clean {cs : List Char} (h : IsBlank cs) : Clean cs := by
  intro c hc
  have hspace := h c hc
  simp only [isSpace, Bool.or_eq_true, decide_eq_true_iff] at hspace
  rcases hspace with ((rfl | rfl) | rfl) | rfl <;> decide

/-! ## Names -/

/-- A name that XML keeps for itself. -/
def isReserved (name : List Char) : Bool := (name.take 3).map Char.toLower == ['x', 'm', 'l']

/-- A name of an element. -/
structure IsTagName (name : List Char) : Prop where
  isName : isXmlName name = true
  free : isReserved name = false

theorem clean_of_isXmlName {name : List Char} (h : isXmlName name = true) : Clean name := by
  cases name with
  | nil => exact clean_nil
  | cons c cs =>
    rw [isXmlName, Bool.and_eq_true, List.all_eq_true] at h
    exact clean_cons.mpr ⟨isAmong_of_within (by decide) h.1,
      fun d hd => isAmong_of_within (by decide) (h.2 d hd)⟩

/-! ## References -/

/-- The names of the characters that have one without being declared. -/
def declared : List (List Char) :=
  [['l', 't'], ['g', 't'], ['a', 'm', 'p'], ['a', 'p', 'o', 's'], ['q', 'u', 'o', 't']]

/-- Digits write a number in a base. -/
def Writes (base : Nat) (cs : List Char) (n : Nat) : Prop :=
  ∃ digits, cs.mapM (digitIn base) = some digits ∧ Nat.ofDigits base digits.reverse = n

/-- A reference to a character that may stand in a document, by its name or its number. -/
inductive IsReference : List Char → Prop where
  | named {name : List Char} (hname : name ∈ declared) : IsReference ('&' :: (name ++ [';']))
  | decimal {digits : List Char} {c : Char} (hne : digits ≠ []) (hc : isChar c = true)
      (hdigits : Writes 10 digits c.toNat) : IsReference ('&' :: '#' :: (digits ++ [';']))
  | hexadecimal {digits : List Char} {c : Char} (hne : digits ≠ []) (hc : isChar c = true)
      (hdigits : Writes 16 digits c.toNat) :
      IsReference ('&' :: '#' :: 'x' :: (digits ++ [';']))

/-! ## Attributes -/

/-- What may stand between the quotes of an attribute. -/
inductive IsAttributeValue (quote : Char) : List Char → Prop where
  | nil : IsAttributeValue quote []
  | char {c : Char} {cs : List Char} (hc : isChar c = true) (hless : c ≠ '<') (hamp : c ≠ '&')
      (hquote : c ≠ quote) (hcs : IsAttributeValue quote cs) : IsAttributeValue quote (c :: cs)
  | reference {r cs : List Char} (hr : IsReference r) (hcs : IsAttributeValue quote cs) :
      IsAttributeValue quote (r ++ cs)

/-- The attributes of a tag, each behind white space, and their text; no two have one name. -/
inductive IsAttributes : List (List Char × List Char) → List Char → Prop where
  | nil : IsAttributes [] []
  | cons {name value space before behind rest : List Char} {quote : Char}
      {attributes : List (List Char × List Char)} (hspace : IsBlank space) (hne : space ≠ [])
      (hname : isXmlName name = true) (hfresh : name ∉ attributes.map Prod.fst)
      (hbefore : IsBlank before) (hbehind : IsBlank behind) (hquote : quote = '"' ∨ quote = '\'')
      (hvalue : IsAttributeValue quote value) (hrest : IsAttributes attributes rest) :
      IsAttributes ((name, value) :: attributes)
        (space ++ name ++ before ++ '=' :: (behind ++ quote :: (value ++ quote :: rest)))

/-! ## Content -/

/-- Characters between tags. -/
structure IsCharData (cs : List Char) : Prop where
  clean : Clean cs
  noTag : '<' ∉ cs
  noReference : '&' ∉ cs
  noEnd : ¬ "]]>".toList <:+: cs

/-- A comment. -/
inductive IsComment : List Char → Prop where
  | mk {body : List Char} (hclean : Clean body) (hdashes : ¬ "--".toList <:+: body)
      (hlast : body.getLast? ≠ some '-') : IsComment ("<!--".toList ++ body ++ "-->".toList)

/-- An instruction for a program that reads the document. -/
inductive IsInstruction : List Char → Prop where
  | mk {target space body : List Char} (hname : isXmlName target = true)
      (hfree : target.map Char.toLower ≠ "xml".toList) (hspace : IsBlank space)
      (hbody : space = [] → body = []) (hclean : Clean body) (hend : ¬ "?>".toList <:+: body) :
      IsInstruction ("<?".toList ++ target ++ space ++ body ++ "?>".toList)

/-- A section of characters none of which is markup. -/
inductive IsRawSection : List Char → Prop where
  | mk {body : List Char} (hclean : Clean body) (hend : ¬ "]]>".toList <:+: body) :
      IsRawSection ("<![CDATA[".toList ++ body ++ "]]>".toList)

mutual

/-- An element: a tag that closes itself, or two tags of one name with content between them. -/
inductive IsElement : List Char → Prop where
  | empty {name text space : List Char} {attributes : List (List Char × List Char)}
      (hname : IsTagName name) (hattributes : IsAttributes attributes text)
      (hspace : IsBlank space) : IsElement ('<' :: (name ++ text ++ space ++ ['/', '>']))
  | pair {name text space content last : List Char} {attributes : List (List Char × List Char)}
      (hname : IsTagName name) (hattributes : IsAttributes attributes text)
      (hspace : IsBlank space) (hcontent : IsContent content) (hlast : IsBlank last) :
      IsElement ('<' :: (name ++ text ++ space ++
        '>' :: (content ++ '<' :: '/' :: (name ++ last ++ ['>']))))

/-- What may stand between the tags of an element: characters, with elements, references and
other markup among them. -/
inductive IsContent : List Char → Prop where
  | data {cs : List Char} (hcs : IsCharData cs) : IsContent cs
  | element {cs e rest : List Char} (hcs : IsCharData cs) (he : IsElement e)
      (hrest : IsContent rest) : IsContent (cs ++ e ++ rest)
  | reference {cs r rest : List Char} (hcs : IsCharData cs) (hr : IsReference r)
      (hrest : IsContent rest) : IsContent (cs ++ r ++ rest)
  | raw {cs s rest : List Char} (hcs : IsCharData cs) (hs : IsRawSection s)
      (hrest : IsContent rest) : IsContent (cs ++ s ++ rest)
  | comment {cs m rest : List Char} (hcs : IsCharData cs) (hm : IsComment m)
      (hrest : IsContent rest) : IsContent (cs ++ m ++ rest)
  | instruction {cs m rest : List Char} (hcs : IsCharData cs) (hm : IsInstruction m)
      (hrest : IsContent rest) : IsContent (cs ++ m ++ rest)

end

/-! ## Documents -/

/-- What may stand around the root. -/
inductive IsAside : List Char → Prop where
  | nil : IsAside []
  | blank {space rest : List Char} (hspace : IsBlank space) (hrest : IsAside rest) :
      IsAside (space ++ rest)
  | comment {m rest : List Char} (hm : IsComment m) (hrest : IsAside rest) : IsAside (m ++ rest)
  | instruction {m rest : List Char} (hm : IsInstruction m) (hrest : IsAside rest) :
      IsAside (m ++ rest)

/-- A name of an encoding. -/
def isEncodingName : List Char → Bool
  | [] => false
  | c :: cs => c.isAlpha && cs.all fun d => isAlnum d || d = '.' || d = '_' || d = '-'

/-- What the declaration may say behind the version: an encoding, and whether the document
stands alone. -/
inductive IsSettings : List (List Char × List Char) → Prop where
  | none : IsSettings []
  | encoding {name : List Char} (hname : isEncodingName name = true) :
      IsSettings [("encoding".toList, name)]
  | alone {answer : List Char} (hanswer : answer = "yes".toList ∨ answer = "no".toList) :
      IsSettings [("standalone".toList, answer)]
  | both {name answer : List Char} (hname : isEncodingName name = true)
      (hanswer : answer = "yes".toList ∨ answer = "no".toList) :
      IsSettings [("encoding".toList, name), ("standalone".toList, answer)]

/-- The declaration that a document may begin with. -/
inductive IsDeclaration : List Char → Prop where
  | mk {settings : List (List Char × List Char)} {text space : List Char}
      (hsettings : IsSettings settings)
      (htext : IsAttributes (("version".toList, "1.0".toList) :: settings) text)
      (hspace : IsBlank space) : IsDeclaration ("<?xml".toList ++ text ++ space ++ "?>".toList)

/-- A document: a root, what stands around it, and perhaps a declaration in front. -/
inductive IsDocument : List Char → Prop where
  | bare {before root behind : List Char} (hbefore : IsAside before) (hroot : IsElement root)
      (hbehind : IsAside behind) : IsDocument (before ++ root ++ behind)
  | declared {declaration before root behind : List Char}
      (hdeclaration : IsDeclaration declaration) (hbefore : IsAside before)
      (hroot : IsElement root) (hbehind : IsAside behind) :
      IsDocument (declaration ++ before ++ root ++ behind)

/-! ## Characters of productions -/

theorem isChar_of_ascii {c : Char} (h : 0x20 ≤ c.toNat ∧ c.toNat < 0x80) : isChar c = true := by
  simp only [isChar, isAmong, charRanges, List.any_cons, Bool.or_eq_true, Bool.and_eq_true,
    decide_eq_true_iff]
  omega

theorem isChar_of_isDigit {c : Char} (h : c.isDigit = true) : isChar c = true := by
  simp only [Char.isDigit, Bool.and_eq_true, decide_eq_true_iff, UInt32.le_iff_toNat_le] at h
  have hval : c.toNat = c.val.toNat := rfl
  exact isChar_of_ascii (by simp at h; omega)

theorem isChar_of_digitIn {base d : Nat} {c : Char} (h : digitIn base c = some d) :
    isChar c = true := by
  have hval : c.toNat = c.val.toNat := rfl
  unfold digitIn at h
  by_cases hdigit : c.isDigit = true
  · exact isChar_of_isDigit hdigit
  · by_cases hlower : ('a' ≤ c && c ≤ 'f') = true
    · simp only [Bool.and_eq_true, decide_eq_true_iff, Char.le_def, UInt32.le_iff_toNat_le]
        at hlower
      exact isChar_of_ascii (by simp at hlower; omega)
    · by_cases hupper : ('A' ≤ c && c ≤ 'F') = true
      · simp only [Bool.and_eq_true, decide_eq_true_iff, Char.le_def, UInt32.le_iff_toNat_le]
          at hupper
        exact isChar_of_ascii (by simp at hupper; omega)
      · simp only [hdigit, hlower, hupper] at h
        contradiction

theorem Writes.clean {base n : Nat} {cs : List Char} (h : Writes base cs n) : Clean cs := by
  obtain ⟨digits, hdigits, -⟩ := h
  induction cs generalizing digits with
  | nil => exact clean_nil
  | cons c cs ih =>
    simp only [List.mapM_cons, Option.bind_eq_bind, Option.bind_eq_some_iff] at hdigits
    obtain ⟨d, hd, more, hmore, -⟩ := hdigits
    exact clean_cons.mpr ⟨isChar_of_digitIn hd, ih more hmore⟩

theorem IsReference.clean {cs : List Char} (h : IsReference cs) : Clean cs := by
  cases h with
  | named hname =>
    simp only [declared, List.mem_cons, List.not_mem_nil, or_false] at hname
    rcases hname with rfl | rfl | rfl | rfl | rfl <;> decide
  | decimal hne hc hdigits =>
    have hclean := hdigits.clean
    simp [hclean, isChar, isAmong, charRanges]
  | hexadecimal hne hc hdigits =>
    have hclean := hdigits.clean
    simp [hclean, isChar, isAmong, charRanges]

theorem IsAttributeValue.clean {quote : Char} {cs : List Char} (h : IsAttributeValue quote cs) :
    Clean cs := by
  induction h with
  | nil => exact clean_nil
  | char hc _ _ _ _ ih => exact clean_cons.mpr ⟨hc, ih⟩
  | reference hr _ ih => exact clean_append.mpr ⟨hr.clean, ih⟩

theorem IsAttributes.clean {attributes : List (List Char × List Char)} {cs : List Char}
    (h : IsAttributes attributes cs) : Clean cs := by
  induction h with
  | nil => exact clean_nil
  | cons hspace _ hname _ hbefore hbehind hquote hvalue _ ih =>
    rcases hquote with rfl | rfl <;>
      simp only [clean_append, clean_cons, hspace.clean, clean_of_isXmlName hname, hbefore.clean,
        hbehind.clean, hvalue.clean, ih] <;> decide

theorem IsComment.clean {cs : List Char} (h : IsComment cs) : Clean cs := by
  cases h with
  | mk hclean _ _ => simp only [clean_append, hclean, and_true]; decide

theorem IsInstruction.clean {cs : List Char} (h : IsInstruction cs) : Clean cs := by
  cases h with
  | mk hname _ hspace _ hclean _ =>
    simp only [clean_append, hclean, clean_of_isXmlName hname, hspace.clean, and_true]
    decide

theorem IsRawSection.clean {cs : List Char} (h : IsRawSection cs) : Clean cs := by
  cases h with
  | mk hclean _ => simp only [clean_append, hclean, and_true]; decide

mutual

theorem IsElement.clean {cs : List Char} : IsElement cs → Clean cs
  | .empty hname hattributes hspace => by
    simp only [clean_append, clean_cons, clean_of_isXmlName hname.isName, hattributes.clean,
      hspace.clean]
    decide
  | .pair hname hattributes hspace hcontent hlast => by
    have hinside := hcontent.clean
    simp only [clean_append, clean_cons, clean_of_isXmlName hname.isName, hattributes.clean,
      hspace.clean, hinside, hlast.clean]
    decide

theorem IsContent.clean {cs : List Char} : IsContent cs → Clean cs
  | .data hcs => hcs.clean
  | .element hcs he hrest =>
    clean_append.mpr ⟨clean_append.mpr ⟨hcs.clean, he.clean⟩, hrest.clean⟩
  | .reference hcs hr hrest =>
    clean_append.mpr ⟨clean_append.mpr ⟨hcs.clean, hr.clean⟩, hrest.clean⟩
  | .raw hcs hs hrest =>
    clean_append.mpr ⟨clean_append.mpr ⟨hcs.clean, hs.clean⟩, hrest.clean⟩
  | .comment hcs hm hrest =>
    clean_append.mpr ⟨clean_append.mpr ⟨hcs.clean, hm.clean⟩, hrest.clean⟩
  | .instruction hcs hm hrest =>
    clean_append.mpr ⟨clean_append.mpr ⟨hcs.clean, hm.clean⟩, hrest.clean⟩

end

theorem IsAside.clean {cs : List Char} (h : IsAside cs) : Clean cs := by
  induction h with
  | nil => exact clean_nil
  | blank hspace _ ih => exact clean_append.mpr ⟨hspace.clean, ih⟩
  | comment hm _ ih => exact clean_append.mpr ⟨hm.clean, ih⟩
  | instruction hm _ ih => exact clean_append.mpr ⟨hm.clean, ih⟩

theorem IsDeclaration.clean {cs : List Char} (h : IsDeclaration cs) : Clean cs := by
  cases h with
  | mk _ htext hspace =>
    simp only [clean_append, htext.clean, hspace.clean, and_true]
    decide

/-- Every character of a document may stand in one. -/
theorem IsDocument.clean {cs : List Char} (h : IsDocument cs) : Clean cs := by
  cases h with
  | bare hbefore hroot hbehind =>
    exact clean_append.mpr ⟨clean_append.mpr ⟨hbefore.clean, hroot.clean⟩, hbehind.clean⟩
  | declared hdeclaration hbefore hroot hbehind =>
    simp only [clean_append, hdeclaration.clean, hbefore.clean, hroot.clean, hbehind.clean,
      and_self]

/-! ## Escaped characters -/

theorem declared_of_namedChar? {name : List Char} {c : Char} (h : namedChar? name = some c) :
    name ∈ declared ∧ isChar c = true := by
  unfold namedChar? at h
  split at h
  · next hname => exact ⟨by rw [hname]; decide, by rw [← Option.some.inj h]; decide⟩
  split at h
  · next hname => exact ⟨by rw [hname]; decide, by rw [← Option.some.inj h]; decide⟩
  split at h
  · next hname => exact ⟨by rw [hname]; decide, by rw [← Option.some.inj h]; decide⟩
  split at h
  · next hname => exact ⟨by rw [hname]; decide, by rw [← Option.some.inj h]; decide⟩
  split at h
  · next hname => exact ⟨by rw [hname]; decide, by rw [← Option.some.inj h]; decide⟩
  · contradiction

theorem isReference_escapeChar {c : Char} {name : List Char}
    (h : escapeChar c = '&' :: (name ++ [';'])) (hname : namedChar? name = some c) :
    IsReference (escapeChar c) := by
  rw [h]
  exact .named (declared_of_namedChar? hname).1

/-- What was escaped may stand between quotes, if its characters may stand in a document. -/
theorem isAttributeValue_escape {cs : List Char} (h : Clean cs) :
    IsAttributeValue '"' (escape cs) := by
  induction cs with
  | nil => exact .nil
  | cons c cs ih =>
    obtain ⟨hc, hcs⟩ := clean_cons.mp h
    rw [escape_cons]
    obtain ⟨hplain, hless, -, hamp, -, hquote⟩ | ⟨name, hwritten, hname, -⟩ := escapeChar_cases c
    · rw [hplain]
      exact .char hc hless hamp hquote (ih hcs)
    · exact .reference (isReference_escapeChar hwritten hname) (ih hcs)

/-- Characters of which none is markup. -/
theorem isCharData_of_noMarkup {cs : List Char} (hclean : Clean cs)
    (h : ∀ c ∈ cs, c ≠ '<' ∧ c ≠ '&' ∧ c ≠ '>') : IsCharData cs where
  clean := hclean
  noTag hmem := (h '<' hmem).1 rfl
  noReference hmem := (h '&' hmem).2.1 rfl
  noEnd hend := (h '>' (hend.subset (by decide))).2.2 rfl

/-- What was escaped may stand between tags behind characters that are no markup. -/
theorem isContent_append_escape {cs : List Char} (hcs : Clean cs) {data : List Char}
    (hdata : Clean data) (hplain : ∀ c ∈ data, c ≠ '<' ∧ c ≠ '&' ∧ c ≠ '>') :
    IsContent (data ++ escape cs) := by
  induction cs generalizing data with
  | nil =>
    have hnothing : data ++ escape [] = data := List.append_nil data
    rw [hnothing]
    exact .data (isCharData_of_noMarkup hdata hplain)
  | cons c cs ih =>
    obtain ⟨hc, hmore⟩ := clean_cons.mp hcs
    rw [escape_cons, ← List.append_assoc]
    obtain ⟨hwritten, hless, hgreater, hamp, -, -⟩ | ⟨name, hwritten, hname, -⟩ :=
      escapeChar_cases c
    · rw [hwritten]
      refine ih hmore (clean_append.mpr ⟨hdata, clean_cons.mpr ⟨hc, clean_nil⟩⟩) fun d hd => ?_
      rcases List.mem_append.mp hd with hd | hd
      · exact hplain d hd
      · obtain rfl := List.mem_singleton.mp hd
        exact ⟨hless, hamp, hgreater⟩
    · have hrest := ih hmore clean_nil nofun
      exact .reference (isCharData_of_noMarkup hdata hplain)
        (isReference_escapeChar hwritten hname) hrest

theorem isContent_escape {cs : List Char} (h : Clean cs) : IsContent (escape cs) := by
  have hcontent := isContent_append_escape h clean_nil nofun
  exact hcontent

/-- Escaping keeps every character that may not stand in a document. -/
theorem clean_escape {cs : List Char} : Clean (escape cs) ↔ Clean cs := by
  refine ⟨fun h => ?_, fun h => (isContent_escape h).clean⟩
  induction cs with
  | nil => exact clean_nil
  | cons c cs ih =>
    rw [escape_cons, clean_append] at h
    refine clean_cons.mpr ⟨?_, ih h.2⟩
    obtain ⟨hplain, -⟩ | ⟨name, -, hname, -⟩ := escapeChar_cases c
    · rw [hplain] at h
      exact h.1 c List.mem_cons_self
    · exact (declared_of_namedChar? hname).2

end ActionTree.Xml
