import ActionTree.Proofs.EnvelopeMarkup
import ActionTree.Proofs.XmlGrammar

/-!
# ActionTree.Proofs.WellFormed

Envelopes as documents of the grammar.

1. the names of elements are names that XML does not keep for itself
   (`Envelope.isTagName_entryName`), and the attributes of a tag have different names;
2. a printer writes an element behind a line break (`WritesElement`), or some content of an
   element (`WritesContent`); the element of a value is put together from those of its items
   and entries (`Envelope.writesElement`);
3. what is escaped keeps its characters, so a document may be read by others only if every
   character of the envelope may stand in one (`Envelope.clean_of_writeElement`).
-/

namespace ActionTree

open Text Markup Xml

/-! ## Texts -/

mutual

/-- The texts and the keys in a value. -/
def Value.texts : Value → List String
  | .null => []
  | .boolean _ => []
  | .number _ => []
  | .text s => [s]
  | .list vs => Value.textsOfItems vs
  | .record es => Value.textsOfEntries es
termination_by structural v => v

/-- The texts and the keys in items. -/
def Value.textsOfItems : List Value → List String
  | [] => []
  | v :: vs => v.texts ++ Value.textsOfItems vs
termination_by structural vs => vs

/-- The keys of entries, and the texts and the keys in them. -/
def Value.textsOfEntries : List (String × Value) → List String
  | [] => []
  | (k, v) :: es => k :: (v.texts ++ Value.textsOfEntries es)
termination_by structural es => es

end

/-- Texts whose characters may stand in a document. -/
def CleanTexts (texts : List String) : Prop := ∀ s ∈ texts, Clean s.toList

instance (texts : List String) : Decidable (CleanTexts texts) := List.decidableBAll _ _

@[simp] theorem cleanTexts_nil : CleanTexts [] := nofun

@[simp] theorem cleanTexts_cons {s : String} {texts : List String} :
    CleanTexts (s :: texts) ↔ Clean s.toList ∧ CleanTexts texts := List.forall_mem_cons

@[simp] theorem cleanTexts_append {texts more : List String} :
    CleanTexts (texts ++ more) ↔ CleanTexts texts ∧ CleanTexts more := List.forall_mem_append

/-- The texts and the keys in an envelope. -/
def Envelope.texts (e : Envelope) : List String := e.message.toList ++ e.payload.texts

/-! ## Numerals -/

theorem clean_digitsOf (n : Nat) : Clean (digitsOf n) := fun _ hc =>
  isChar_of_isDigit (isDigit_of_mem_digitsOf hc)

theorem clean_replicate_zero (n : Nat) : Clean (List.replicate n '0') := by
  intro c hc
  rw [(List.mem_replicate.mp hc).2]
  decide

theorem clean_powerChars (power : Int) : Clean (powerChars power) := by
  unfold powerChars
  have hdigits := clean_digitsOf power.natAbs
  split <;> simp only [clean_cons, hdigits] <;> decide

theorem clean_digitsChars (d : Digits) : Clean d.chars := by
  have hdigits := clean_digitsOf d.digits
  have htake (n : Nat) : Clean ((digitsOf d.digits).take n) := fun c hc =>
    hdigits c (List.mem_of_mem_take hc)
  have hdrop (n : Nat) : Clean ((digitsOf d.digits).drop n) := fun c hc =>
    hdigits c (List.mem_of_mem_drop hc)
  have hdot : isChar '.' = true := by decide
  have hzero : isChar '0' = true := by decide
  unfold Digits.chars
  dsimp only
  split
  · split
    · simp [hdigits, clean_replicate_zero, hdot, hzero]
    · split
      · simp [htake, hdrop, hdot]
      · simp [hdigits, clean_replicate_zero, hdot, hzero]
  · split
    · next c hc =>
      rw [hc] at hdigits
      exact clean_cons.mpr ⟨hdigits c List.mem_cons_self, clean_powerChars _⟩
    · next c cs _ hcs =>
      rw [hcs, clean_cons] at hdigits
      simp [hdigits, clean_powerChars, hdot]
    · exact clean_nil

theorem clean_numberChars (n : Number) : Clean n.chars := by
  cases n with
  | integer i =>
    cases i with
    | ofNat n => exact clean_digitsOf n
    | negSucc n => exact clean_cons.mpr ⟨by decide, clean_digitsOf (n + 1)⟩
  | real x =>
    have hbody : Clean (if x.isZero then ['0', '.', '0'] else x.shortest.chars) := by
      split
      · decide
      · exact clean_digitsChars x.shortest
    change Clean x.chars
    rw [Finite.chars]
    split
    · exact clean_cons.mpr ⟨by decide, hbody⟩
    · exact hbody

/-! ## Tags -/

namespace Envelope

theorem isAmong_of_isElementStart {c : Char} (h : isElementStart c = true) :
    isAmong [(0x41, 0x5A), (0x5F, 0x5F), (0x61, 0x7A)] c = true := by
  have hval : c.toNat = c.val.toNat := rfl
  have hletter : (decide ('A'.val ≤ c.val ∧ c.val ≤ 'Z'.val) ||
    ('a'.val ≤ c.val && c.val ≤ 'z'.val) || decide (c = '_')) = true := h
  simp only [Bool.or_eq_true, Bool.and_eq_true, decide_eq_true_iff, UInt32.le_iff_toNat_le]
    at hletter
  simp only [isAmong, List.any_cons, List.any_nil, Bool.or_false, Bool.or_eq_true,
    Bool.and_eq_true, decide_eq_true_iff]
  rcases hletter with (h | h) | rfl
  · simp at h
    omega
  · simp at h
    omega
  · decide

theorem isAmong_of_isElementChar {c : Char} (h : isElementChar c = true) :
    isAmong [(0x2D, 0x2E), (0x30, 0x39), (0x41, 0x5A), (0x5F, 0x5F), (0x61, 0x7A)] c = true := by
  simp only [isElementChar, isAlnum, Bool.or_eq_true, decide_eq_true_iff] at h
  rcases h with (((h | h) | rfl) | rfl) | rfl
  · have hstart : isElementStart c = true := by simp [isElementStart, h]
    exact isAmong_of_within (by decide) (isAmong_of_isElementStart hstart)
  · have hval : c.toNat = c.val.toNat := rfl
    simp only [Char.isDigit, Bool.and_eq_true, decide_eq_true_iff, UInt32.le_iff_toNat_le] at h
    simp only [isAmong, List.any_cons, List.any_nil, Bool.or_false, Bool.or_eq_true,
      Bool.and_eq_true, decide_eq_true_iff]
    simp at h
    omega
  · decide
  · decide
  · decide

/-- A name that does not begin with `xml` is none that XML keeps for itself. -/
theorem isReserved_of_startsWith {key : String} (h : startsWith "xml" (lower key) = false) :
    isReserved key.toList = false := by
  by_contra hreserved
  rw [Bool.not_eq_false, isReserved, beq_iff_eq] at hreserved
  have hstart : key.toList.map Char.toLower =
      ['x', 'm', 'l'] ++ (key.toList.map Char.toLower).drop 3 := by
    rw [← List.map_drop, ← hreserved, ← List.map_append, List.take_append_drop]
  have hxml : "xml".toList = ['x', 'm', 'l'] := rfl
  rw [startsWith, hxml, lower, String.toList_ofList, hstart, stripStartChars_append] at h
  contradiction

/-- A key that can name an element is a name that XML does not keep for itself. -/
theorem isTagName_of_isElementName {key : String} (h : isElementName key = true) :
    IsTagName key.toList := by
  unfold isElementName at h
  split at h
  · contradiction
  · next c cs hkey =>
    simp only [Bool.and_eq_true, Bool.not_eq_true', List.all_cons, List.all_eq_true] at h
    obtain ⟨⟨hstart, hfree⟩, -, hmore⟩ := h
    refine ⟨?_, isReserved_of_startsWith hfree⟩
    rw [hkey, isXmlName, Bool.and_eq_true, List.all_eq_true]
    exact ⟨isAmong_of_within (by decide) (isAmong_of_isElementStart hstart),
      fun d hd => isAmong_of_within (by decide) (isAmong_of_isElementChar (hmore d hd))⟩

theorem isTagName_entryName (key : String) : IsTagName (entryName key).toList := by
  unfold entryName
  split
  · next h => exact isTagName_of_isElementName h
  · exact ⟨by decide, by decide⟩

/-- Attributes with different names are the attributes of a tag. -/
theorem isAttributes_written {attributes : List (String × String)}
    (hnames : ∀ a ∈ attributes, isXmlName a.1.toList = true)
    (hdistinct : (attributes.map Prod.fst).Nodup)
    (hclean : ∀ a ∈ attributes, Clean a.2.toList) :
    IsAttributes (attributes.map fun a => (a.1.toList, escape a.2.toList))
      (attributes.flatMap writtenAttribute) := by
  induction attributes with
  | nil => exact .nil
  | cons a attributes ih =>
    obtain ⟨name, value⟩ := a
    rw [List.forall_mem_cons] at hnames hclean
    rw [List.map_cons, List.nodup_cons] at hdistinct
    have hfresh : name.toList ∉
        (attributes.map fun a => (a.1.toList, escape a.2.toList)).map Prod.fst := by
      intro hmem
      rw [List.map_map] at hmem
      obtain ⟨b, hb, hname⟩ := List.mem_map.mp hmem
      exact hdistinct.1 (List.mem_map.mpr ⟨b, hb, String.toList_inj.mp hname⟩)
    have hspace : Xml.IsBlank [' '] := by decide
    have htag := IsAttributes.cons hspace (List.cons_ne_nil _ _) hnames.1 hfresh isBlank_nil
      isBlank_nil (.inl rfl) (isAttributeValue_escape hclean.1) (ih hnames.2 hdistinct.2 hclean.2)
    simpa [writtenAttribute] using htag

theorem isAttributes_elementAttributes (indented : Bool) {key : Option String} (v : Value)
    (hkey : CleanTexts key.toList) :
    ∃ pairs, IsAttributes pairs
      ((elementAttributes indented key (kindOf v)).flatMap writtenAttribute) := by
  have hkind : Clean (kindOf v).toList := by cases v <;> rw [kindOf] <;> decide
  refine ⟨_, isAttributes_written ?_ (distinct_elementAttributes indented key _) ?_⟩
  · intro a ha
    simp only [elementAttributes, List.mem_append, Option.mem_toList, Option.map_eq_some_iff,
      List.mem_ite_nil_right, List.mem_singleton] at ha
    rcases ha with ⟨k, -, rfl⟩ | ⟨-, rfl⟩
    · exact (by decide : isXmlName "key".toList = true)
    · exact (by decide : isXmlName "type".toList = true)
  · intro a ha
    simp only [elementAttributes, List.mem_append, Option.mem_toList, Option.map_eq_some_iff,
      List.mem_ite_nil_right, List.mem_singleton] at ha
    rcases ha with ⟨k, hk, rfl⟩ | ⟨-, rfl⟩
    · exact hkey k (Option.mem_toList.mpr hk)
    · exact hkind

/-! ## Printers -/

/-- A printer writes an element before what follows, behind white space. -/
def WritesElement (write : List Char → List Char) : Prop :=
  ∃ space e, Xml.IsBlank space ∧ IsElement e ∧ ∀ rest, write rest = space ++ e ++ rest

/-- A printer writes content of an element before what follows. -/
def WritesContent (write : List Char → List Char) : Prop :=
  ∃ content, (∀ more, IsContent more → IsContent (content ++ more)) ∧
    ∀ rest, write rest = content ++ rest

theorem isCharData_of_isBlank {space : List Char} (h : Xml.IsBlank space) : IsCharData space := by
  refine isCharData_of_noMarkup h.clean fun c hc => ?_
  have hspace := h c hc
  refine ⟨?_, ?_, ?_⟩ <;>
  · rintro rfl
    contradiction

theorem WritesContent.nil : WritesContent id := ⟨[], fun _ h => h, fun _ => rfl⟩

theorem WritesElement.append {write more : List Char → List Char} (hwrite : WritesElement write)
    (hmore : WritesContent more) : WritesContent fun rest => write (more rest) := by
  obtain ⟨space, e, hspace, he, hwrite⟩ := hwrite
  obtain ⟨content, hcontent, hmore⟩ := hmore
  refine ⟨space ++ e ++ content, fun tail htail => ?_, fun rest => ?_⟩
  · rw [List.append_assoc]
    exact .element (isCharData_of_isBlank hspace) he (hcontent tail htail)
  · change write (more rest) = _
    rw [hwrite, hmore, List.append_assoc _ content]

/-- What a line break writes, if anything. -/
theorem breakLine_eq (indented : Bool) (level : Nat) :
    ∃ space, Xml.IsBlank space ∧ ∀ rest, breakLine indented level rest = space ++ rest := by
  cases indented with
  | false => exact ⟨[], by decide, fun _ => rfl⟩
  | true =>
    refine ⟨lineBreak level, fun c hc => ?_, fun _ => rfl⟩
    rcases mem_lineBreak hc with rfl | rfl <;> decide

section Tags

variable (indented : Bool) (level : Nat) {name : String} (hname : IsTagName name.toList)
  {attributes : List (String × String)} {pairs : List (List Char × List Char)}
  (hattributes : IsAttributes pairs (attributes.flatMap writtenAttribute))

include hname hattributes

/-- A tag that closes itself is an element. -/
theorem writesElement_empty :
    WritesElement fun rest =>
      breakLine indented level ('<' :: (tagContent name attributes ++ '/' :: '>' :: rest)) := by
  obtain ⟨space, hspace, hbreak⟩ := breakLine_eq indented level
  refine ⟨space, _, hspace, .empty hname hattributes isBlank_nil, fun rest => ?_⟩
  simp [hbreak, tagContent]

/-- Content between two tags of one name is an element. -/
theorem writesElement_pair {content : List Char} (hcontent : IsContent content) :
    WritesElement fun rest =>
      breakLine indented level ('<' :: (tagContent name attributes ++
        '>' :: (content ++ closeTag name rest))) := by
  obtain ⟨space, hspace, hbreak⟩ := breakLine_eq indented level
  refine ⟨space, _, hspace, .pair hname hattributes isBlank_nil hcontent isBlank_nil,
    fun rest => ?_⟩
  simp [hbreak, tagContent, closeTag]

/-- So is what a printer writes between the tags, with a line break behind it. -/
theorem writesElement_container {inner : List Char → List Char} (hinner : WritesContent inner) :
    WritesElement fun rest =>
      breakLine indented level ('<' :: (tagContent name attributes ++
        '>' :: inner (breakLine indented level (closeTag name rest)))) := by
  obtain ⟨content, hcontent, hwrite⟩ := hinner
  obtain ⟨space, hspace, hbreak⟩ := breakLine_eq indented level
  have helement := writesElement_pair indented level hname hattributes
    (hcontent space (.data (isCharData_of_isBlank hspace)))
  have hsame : (fun rest => breakLine indented level ('<' :: (tagContent name attributes ++
      '>' :: inner (breakLine indented level (closeTag name rest))))) = fun rest =>
      breakLine indented level ('<' :: (tagContent name attributes ++
        '>' :: (content ++ space ++ closeTag name rest))) := by
    funext rest
    rw [hwrite, hbreak (closeTag name rest), List.append_assoc]
  rwa [hsame]

end Tags

/-! ## Values -/

theorem cleanTexts_entryKey {key : String} (h : Clean key.toList) :
    CleanTexts (entryKey key).toList := by
  unfold entryKey
  split
  · exact cleanTexts_nil
  · exact cleanTexts_cons.mpr ⟨h, cleanTexts_nil⟩

/-- A value that holds no others is escaped between the tags of its element. -/
theorem writesElement_leaf (indented : Bool) (level : Nat) {name : String}
    (hname : IsTagName name.toList) {key : Option String} (v : Value)
    (hkey : CleanTexts key.toList) (htext : Clean v.toText.toList) :
    WritesElement fun rest =>
      breakLine indented level (openTag indented name key (kindOf v)
        ('>' :: (escape v.toText.toList ++ closeTag name rest))) := by
  obtain ⟨pairs, hattributes⟩ := isAttributes_elementAttributes indented v hkey
  simp only [openTag_eq]
  exact writesElement_pair indented level hname hattributes (isContent_escape htext)

mutual

/-- **The element of a value is an element**, if the characters of its texts and its keys may
stand in a document. -/
theorem writesElement (indented : Bool) (level : Nat) {name : String} (key : Option String)
    (v : Value) (hname : IsTagName name.toList) (hkey : CleanTexts key.toList)
    (hv : CleanTexts v.texts) :
    WritesElement (writeElement indented level name key v) := by
  obtain ⟨pairs, hattributes⟩ := isAttributes_elementAttributes indented v hkey
  have hempty := writesElement_empty indented level hname hattributes
  cases v with
  | null =>
    simp only [← openTag_eq] at hempty
    exact hempty
  | boolean b =>
    refine writesElement_leaf indented level hname (.boolean b) hkey ?_
    cases b <;> decide
  | number n =>
    refine writesElement_leaf indented level hname (.number n) hkey ?_
    rw [Value.toText, Number.text, String.toList_ofList]
    exact clean_numberChars n
  | text s => exact writesElement_leaf indented level hname (.text s) hkey (hv s List.mem_cons_self)
  | list vs =>
    cases vs with
    | nil =>
      simp only [← openTag_eq] at hempty
      exact hempty
    | cons v vs =>
      have helement := writesElement_container indented level hname hattributes
        (writesItems indented (level + 1) (v :: vs) hv)
      simp only [← openTag_eq, kindOf, ← writeElement_list] at helement
      exact helement
  | record es =>
    cases es with
    | nil =>
      simp only [← openTag_eq] at hempty
      exact hempty
    | cons e es =>
      have helement := writesElement_container indented level hname hattributes
        (writesEntries indented (level + 1) (e :: es) hv)
      simp only [← openTag_eq, kindOf, ← writeElement_record] at helement
      exact helement
termination_by structural v

theorem writesItems (indented : Bool) (level : Nat) (vs : List Value)
    (hvs : CleanTexts (Value.textsOfItems vs)) : WritesContent (writeItems indented level vs) := by
  cases vs with
  | nil => exact .nil
  | cons v vs =>
    rw [Value.textsOfItems, cleanTexts_append] at hvs
    exact (writesElement indented level none v ⟨by decide, by decide⟩ cleanTexts_nil hvs.1).append
      (writesItems indented level vs hvs.2)
termination_by structural vs

theorem writesEntries (indented : Bool) (level : Nat) (es : List (String × Value))
    (hes : CleanTexts (Value.textsOfEntries es)) :
    WritesContent (writeEntries indented level es) := by
  cases es with
  | nil => exact .nil
  | cons e es =>
    obtain ⟨k, v⟩ := e
    rw [Value.textsOfEntries, cleanTexts_cons, cleanTexts_append] at hes
    exact (writesElement indented level (entryKey k) v (isTagName_entryName k)
      (cleanTexts_entryKey hes.1) hes.2.1).append (writesEntries indented level es hes.2.2)
termination_by structural es

end

/-! ## Documents -/

theorem isAttributes_rootAttributes {e : Envelope} (h : CleanTexts e.message.toList) :
    ∃ pairs, IsAttributes pairs ((rootAttributes e).flatMap writtenAttribute) := by
  have hstatus : Clean (toString e.status).toList := by
    have hdigits : (toString e.status).toList = digitsOf e.status := String.toList_ofList
    rw [hdigits]
    exact clean_digitsOf e.status
  refine ⟨_, isAttributes_written ?_ (distinct_rootAttributes e) ?_⟩
  · intro a ha
    simp only [rootAttributes, List.mem_cons, Option.mem_toList, Option.map_eq_some_iff] at ha
    rcases ha with rfl | ⟨m, -, rfl⟩
    · exact (by decide : isXmlName "status".toList = true)
    · exact (by decide : isXmlName "message".toList = true)
  · intro a ha
    simp only [rootAttributes, List.mem_cons, Option.mem_toList, Option.map_eq_some_iff] at ha
    rcases ha with rfl | ⟨m, hm, rfl⟩
    · exact hstatus
    · exact h m (Option.mem_toList.mpr hm)

theorem isDeclaration_declaration : IsDeclaration declaration.toList := by
  have hattributes := @isAttributes_written [("version", "1.0"), ("encoding", "UTF-8")]
    (by decide) (by decide) (by decide)
  have hsettings : IsSettings [("encoding".toList, "UTF-8".toList)] := .encoding (by decide)
  have hwritten := IsDeclaration.mk hsettings hattributes isBlank_nil
  exact hwritten

/-- An envelope is a document, if the characters of its texts and its keys may stand in one. -/
theorem isDocument_writeDocument (indented : Bool) {e : Envelope} (h : CleanTexts e.texts) :
    IsDocument (writeDocument indented e) := by
  obtain ⟨hmessage, hpayload⟩ := cleanTexts_append.mp h
  obtain ⟨pairs, hattributes⟩ := isAttributes_rootAttributes hmessage
  have hpayloadTag : IsTagName "payload".toList := ⟨by decide, by decide⟩
  have hrootTag : IsTagName "response".toList := ⟨by decide, by decide⟩
  have hinner :=
    (writesElement indented 1 none e.payload hpayloadTag cleanTexts_nil hpayload).append .nil
  obtain ⟨space, root, hspace, hroot, hwrite⟩ :=
    writesElement_container indented 0 hrootTag hattributes hinner
  have hdocument := IsDocument.declared isDeclaration_declaration (.blank hspace .nil) hroot .nil
  have hwritten : writeDocument indented e = declaration.toList ++ (space ++ root) := by
    have hroot := hwrite []
    rw [List.append_nil] at hroot
    rw [writeDocument_eq]
    exact congrArg (declaration.toList ++ ·) hroot
  rw [hwritten]
  simpa using hdocument

/-! ## Characters of documents -/

theorem clean_of_breakLine {indented : Bool} {level : Nat} {rest : List Char}
    (h : Clean (breakLine indented level rest)) : Clean rest := by
  obtain ⟨space, -, hbreak⟩ := breakLine_eq indented level
  rw [hbreak, clean_append] at h
  exact h.2

theorem clean_of_closeTag {name : String} {rest : List Char} (h : Clean (closeTag name rest)) :
    Clean rest := by
  simp only [closeTag, clean_cons, clean_append] at h
  exact h.2.2.2.2

/-- Tags have the characters of the values of their attributes. -/
theorem clean_of_tagContent {name : String} {attributes : List (String × String)}
    (h : Clean (tagContent name attributes)) : ∀ a ∈ attributes, Clean a.2.toList := by
  intro a ha
  have hattribute : Clean (writtenAttribute a) := fun c hc =>
    h c (List.mem_append_right _ (List.mem_flatMap.mpr ⟨a, ha, hc⟩))
  simp only [writtenAttribute, clean_cons, clean_append, clean_escape] at hattribute
  exact hattribute.2.2.2.2.1

/-- A tag has the characters of the key that its element has to carry. -/
theorem clean_of_openTag {indented : Bool} {level : Nat} {name : String} {key : Option String}
    {kind : String} {rest : List Char}
    (h : Clean (breakLine indented level (openTag indented name key kind rest))) :
    CleanTexts key.toList ∧ Clean rest := by
  have htag := clean_of_breakLine h
  rw [openTag_eq, clean_cons, clean_append] at htag
  refine ⟨fun k hk => ?_, htag.2.2⟩
  refine clean_of_tagContent htag.2.1 ("key", k) ?_
  simp only [elementAttributes, List.mem_append, Option.mem_toList, Option.map_eq_some_iff]
  exact .inl ⟨k, Option.mem_toList.mp hk, rfl⟩

/-- The key of an entry is the name of its element, or is carried by it. -/
theorem clean_of_entryKey {key : String} (h : CleanTexts (entryKey key).toList) :
    Clean key.toList := by
  unfold entryKey at h
  split at h
  · next hname => exact clean_of_isXmlName (isTagName_of_isElementName hname).isName
  · exact h key List.mem_cons_self

mutual

/-- An element has the characters of the texts and the keys in its value. -/
theorem clean_of_writeElement {indented : Bool} {level : Nat} {name : String}
    {key : Option String} {v : Value} {rest : List Char}
    (h : Clean (writeElement indented level name key v rest)) :
    CleanTexts key.toList ∧ CleanTexts v.texts ∧ Clean rest := by
  cases v with
  | null =>
    obtain ⟨hkey, hrest⟩ := clean_of_openTag h
    exact ⟨hkey, cleanTexts_nil, (clean_cons.mp (clean_cons.mp hrest).2).2⟩
  | boolean b =>
    obtain ⟨hkey, hrest⟩ := clean_of_openTag h
    exact ⟨hkey, cleanTexts_nil, clean_of_closeTag (clean_append.mp (clean_cons.mp hrest).2).2⟩
  | number n =>
    obtain ⟨hkey, hrest⟩ := clean_of_openTag h
    exact ⟨hkey, cleanTexts_nil, clean_of_closeTag (clean_append.mp (clean_cons.mp hrest).2).2⟩
  | text s =>
    obtain ⟨hkey, hrest⟩ := clean_of_openTag h
    obtain ⟨htext, hclose⟩ := clean_append.mp (clean_cons.mp hrest).2
    exact ⟨hkey, cleanTexts_cons.mpr ⟨clean_escape.mp htext, cleanTexts_nil⟩,
      clean_of_closeTag hclose⟩
  | list vs =>
    cases vs with
    | nil =>
      obtain ⟨hkey, hrest⟩ := clean_of_openTag h
      exact ⟨hkey, cleanTexts_nil, (clean_cons.mp (clean_cons.mp hrest).2).2⟩
    | cons v vs =>
      rw [writeElement_list] at h
      obtain ⟨hkey, hrest⟩ := clean_of_openTag h
      obtain ⟨hitems, hclose⟩ := clean_of_writeItems (clean_cons.mp hrest).2
      exact ⟨hkey, hitems, clean_of_closeTag (clean_of_breakLine hclose)⟩
  | record es =>
    cases es with
    | nil =>
      obtain ⟨hkey, hrest⟩ := clean_of_openTag h
      exact ⟨hkey, cleanTexts_nil, (clean_cons.mp (clean_cons.mp hrest).2).2⟩
    | cons e es =>
      rw [writeElement_record] at h
      obtain ⟨hkey, hrest⟩ := clean_of_openTag h
      obtain ⟨hentries, hclose⟩ := clean_of_writeEntries (clean_cons.mp hrest).2
      exact ⟨hkey, hentries, clean_of_closeTag (clean_of_breakLine hclose)⟩
termination_by structural v

theorem clean_of_writeItems {indented : Bool} {level : Nat} {vs : List Value} {rest : List Char}
    (h : Clean (writeItems indented level vs rest)) :
    CleanTexts (Value.textsOfItems vs) ∧ Clean rest := by
  cases vs with
  | nil => exact ⟨cleanTexts_nil, h⟩
  | cons v vs =>
    rw [writeItems] at h
    obtain ⟨-, hv, hmore⟩ := clean_of_writeElement h
    obtain ⟨hvs, hrest⟩ := clean_of_writeItems hmore
    exact ⟨cleanTexts_append.mpr ⟨hv, hvs⟩, hrest⟩
termination_by structural vs

theorem clean_of_writeEntries {indented : Bool} {level : Nat} {es : List (String × Value)}
    {rest : List Char} (h : Clean (writeEntries indented level es rest)) :
    CleanTexts (Value.textsOfEntries es) ∧ Clean rest := by
  cases es with
  | nil => exact ⟨cleanTexts_nil, h⟩
  | cons e es =>
    obtain ⟨k, v⟩ := e
    rw [writeEntries] at h
    obtain ⟨hkey, hv, hmore⟩ := clean_of_writeElement h
    obtain ⟨hes, hrest⟩ := clean_of_writeEntries hmore
    exact ⟨cleanTexts_cons.mpr ⟨clean_of_entryKey hkey, cleanTexts_append.mpr ⟨hv, hes⟩⟩, hrest⟩
termination_by structural es

end

theorem cleanTexts_of_writeDocument {indented : Bool} {e : Envelope}
    (h : Clean (writeDocument indented e)) : CleanTexts e.texts := by
  rw [writeDocument_eq, clean_append] at h
  have hroot := clean_of_breakLine h.2
  rw [clean_cons, clean_append, clean_cons] at hroot
  obtain ⟨-, hpayload, -⟩ := clean_of_writeElement hroot.2.2.2
  refine cleanTexts_append.mpr ⟨fun m hm => ?_, hpayload⟩
  refine clean_of_tagContent hroot.2.1 ("message", m) ?_
  simp only [rootAttributes, List.mem_cons, Option.mem_toList, Option.map_eq_some_iff]
  exact .inr ⟨m, Option.mem_toList.mp hm, rfl⟩

/-- The document of an envelope belongs to the grammar exactly if the characters of its texts
and its keys may stand in a document. -/
theorem isDocument_iff (indented : Bool) (e : Envelope) :
    IsDocument (writeDocument indented e) ↔ CleanTexts e.texts :=
  ⟨fun h => cleanTexts_of_writeDocument h.clean, isDocument_writeDocument indented⟩

/-- **The XML of an envelope is well formed exactly if its characters may stand in XML.**

In both forms the text of an envelope is a document of the grammar, with the right names, tags,
attributes and references, if and only if every character of its message and of the texts and
the keys in its payload may stand in a document.  Nothing else that is in an envelope makes
its text ill formed. -/
theorem xml_wellFormed_iff (e : Envelope) :
    (IsDocument (e.serialize .xml).toList ↔ CleanTexts e.texts) ∧
      (IsDocument (e.serialize .xmlDebug).toList ↔ CleanTexts e.texts) := by
  rw [toList_serialize_xml, toList_serialize_xmlDebug]
  exact ⟨isDocument_iff false e, isDocument_iff true e⟩

/-- A text may hold a character that has no place in a document, and it is written as it is. -/
theorem control_character_is_written :
    ¬ IsDocument ((⟨200, none, .text "\x01", []⟩ : Envelope).serialize .xml).toList := by
  rw [toList_serialize_xml, isDocument_iff]
  decide

end Envelope

end ActionTree
