import ActionTree.Program.Source
import ActionTree.Proofs.Markup

/-!
# ActionTree.Proofs.DocumentText

Every document that is written is read back.

1. a document is a tree of elements with comments, declarations and blanks around its root.
   The types let through only what can be written: names, tags whose keys differ, texts that
   do not end the markup they stand in;
2. texts that stand next to each other are one text for the reader, so what was written of a
   text is kept back until other markup comes (`leads_items`);
3. an element is read as its node wherever it stands (`leads_element`), so a document is read
   as the children of its root, and one with an element too few or too many is refused.
-/

namespace ActionTree.Markup

open Text

/-! ## Names -/

/-- The code points of the characters that a name can begin with. -/
def nameStarts : List (Nat × Nat) :=
  [(0x3A, 0x3A), (0x41, 0x5A), (0x5F, 0x5F), (0x61, 0x7A), (0xC0, 0xD6), (0xD8, 0xF6),
   (0xF8, 0x2FF), (0x370, 0x37D), (0x37F, 0x1FFF), (0x200C, 0x200D), (0x2070, 0x218F),
   (0x2C00, 0x2FEF), (0x3001, 0xD7FF), (0xF900, 0xFDCF), (0xFDF0, 0xFFFD), (0x10000, 0xEFFFF)]

/-- The code points of the characters that can stand in a name only behind others. -/
def nameParts : List (Nat × Nat) :=
  [(0x2D, 0x2E), (0x30, 0x39), (0xB7, 0xB7), (0x300, 0x36F), (0x203F, 0x2040)]

/-- Whether the code point of a character is in one of some ranges. -/
def isAmong (ranges : List (Nat × Nat)) (c : Char) : Bool :=
  ranges.any fun r => r.1 ≤ c.toNat && c.toNat ≤ r.2

/-- Whether characters are a name. -/
def isXmlName : List Char → Bool
  | [] => false
  | c :: cs => isAmong nameStarts c && cs.all (isAmong (nameStarts ++ nameParts))

/-- A name of an element or an attribute. -/
structure XmlName where
  text : String
  isName : isXmlName text.toList = true

theorem XmlName.isPlain (n : XmlName) : IsPlain n.text.toList := by
  have hname := n.isName
  cases hcs : n.text.toList with
  | nil =>
    rw [hcs] at hname
    contradiction
  | cons c cs =>
    rw [hcs, isXmlName, Bool.and_eq_true, List.all_eq_true] at hname
    obtain ⟨hc, hmore⟩ := hname
    refine ⟨List.cons_ne_nil c cs, fun d hd => ?_⟩
    rcases List.mem_cons.mp hd with rfl | hd
    · exact isPlain_of (by decide) hc
    · exact isPlain_of (by decide) (hmore d hd)

/-! ## Tags -/

/-- What stands in a tag. -/
structure Tag where
  name : XmlName
  attributes : List (XmlName × String)
  distinct : (attributes.map fun a => a.1.text).Nodup

namespace Tag

/-- The attributes with their keys as texts. -/
def pairs (t : Tag) : List (String × String) := t.attributes.map fun a => (a.1.text, a.2)

theorem plainKeys_pairs (t : Tag) : PlainKeys t.pairs := by
  intro a ha
  obtain ⟨b, -, rfl⟩ := List.mem_map.mp ha
  exact b.1.isPlain

theorem distinct_pairs (t : Tag) : (t.pairs.map Prod.fst).Nodup := by
  rw [pairs, List.map_map]
  exact t.distinct

/-- The node of an element in which nothing stands. -/
def node (t : Tag) : Node := { name := t.name.text, attributes := t.pairs }

/-- What stands between the brackets. -/
def content (t : Tag) : List Char := tagContent t.name.text t.pairs

/-- The tag in front of an element. -/
def opened (t : Tag) : List Char := '<' :: (t.content ++ ['>'])

/-- The tag behind an element. -/
def closed (t : Tag) : List Char := '<' :: '/' :: (t.name.text.toList ++ ['>'])

/-- The tag that is an element on its own. -/
def alone (t : Tag) : List Char := '<' :: (t.content ++ ['/', '>'])

end Tag

/-! ## Elements -/

/-- A comment. -/
structure Comment where
  text : String
  isComment : IsComment text.toList

/-- A section in which nothing is escaped. -/
structure RawSection where
  text : String
  isRaw : IsRaw text.toList

/-- A comment as it is written. -/
def Comment.written (c : Comment) : List Char :=
  '<' :: '!' :: '-' :: '-' :: (c.text.toList ++ ['-', '-', '>'])

/-- A raw section as it is written. -/
def RawSection.written (r : RawSection) : List Char :=
  '<' :: ("![CDATA[".toList ++ (r.text.toList ++ [']', ']', '>']))

/-- An instruction to whoever reads the document.  Its declaration is one. -/
structure Processing where
  text : String
  isInstruction : IsInstruction text.toList

/-- An instruction as it is written. -/
def Processing.written (p : Processing) : List Char :=
  '<' :: '?' :: (p.text.toList ++ ['?', '>'])

mutual

/-- An element: a tag on its own, or two tags and what stands between them. -/
inductive Element where
  | alone (tag : Tag)
  | around (tag : Tag) (items : List Item)

/-- What stands in an element. -/
inductive Item where
  | text (s : String)
  | raw (r : RawSection)
  | comment (c : Comment)
  | processing (p : Processing)
  | child (e : Element)

end

/-- What an item adds to the text of the element that it stands in, if anything was
written. -/
def Item.own? : Item → Option String
  | .text s => if s = "" then none else some s
  | .raw r => some r.text
  | .comment _ | .processing _ | .child _ => none

/-- The text of an element that has some items. -/
def textOf (items : List Item) : Option String :=
  match items.filterMap Item.own? with
  | [] => none
  | texts => some (String.join texts)

mutual

/-- The node of an element. -/
def Element.node : Element → Node
  | .alone tag => tag.node
  | .around tag items => { tag.node with children := childrenOf items, text := textOf items }
termination_by structural e => e

/-- The nodes of the elements among some items. -/
def childrenOf : List Item → List Node
  | [] => []
  | .child e :: items => e.node :: childrenOf items
  | .text _ :: items | .raw _ :: items | .comment _ :: items | .processing _ :: items =>
    childrenOf items
termination_by structural items => items

end

mutual

/-- An element as it is written. -/
def Element.written : Element → List Char
  | .alone tag => tag.alone
  | .around tag items => tag.opened ++ (writtenItems items ++ tag.closed)
termination_by structural e => e

/-- Items as they are written. -/
def writtenItems : List Item → List Char
  | [] => []
  | .text s :: items => escape s.toList ++ writtenItems items
  | .raw r :: items => r.written ++ writtenItems items
  | .comment c :: items => c.written ++ writtenItems items
  | .processing p :: items => p.written ++ writtenItems items
  | .child e :: items => e.written ++ writtenItems items
termination_by structural items => items

end

/-! ### Texts put together -/

/-- Two texts, either of which may be missing, as one. -/
def joined : Option String → Option String → Option String
  | none, s => s
  | some s, none => some s
  | some s, some t => some (s ++ t)

@[simp] theorem joined_none (s : Option String) : joined s none = s := by cases s <;> rfl

@[simp] theorem none_joined (s : Option String) : joined none s = s := rfl

theorem joined_assoc (r s t : Option String) : joined (joined r s) t = joined r (joined s t) := by
  cases r <;> cases s <;> cases t <;> simp [joined, String.append_assoc]

/-- A text that counts only if something was written. -/
def written? (cs : List Char) : Option String := if cs = [] then none else some (String.ofList cs)

theorem written?_nil : written? [] = none := rfl

theorem written?_append (cs ds : List Char) :
    written? (cs ++ ds) = joined (written? cs) (written? ds) := by
  by_cases hcs : cs = []
  · simp [written?, hcs]
  · by_cases hds : ds = []
    · simp [written?, hds]
    · simp only [written?, List.append_eq_nil_iff, hcs, hds, and_self, if_false, joined,
        String.ofList_append]

theorem textOf_nil : textOf [] = none := rfl

theorem textOf_cons (i : Item) (items : List Item) :
    textOf (i :: items) = joined i.own? (textOf items) := by
  cases hi : i.own? with
  | none => rw [textOf, List.filterMap_cons_none hi, none_joined, textOf]
  | some s =>
    rw [textOf, List.filterMap_cons_some hi, textOf]
    cases items.filterMap Item.own? with
    | nil => simp [joined, String.join_cons]
    | cons t ts => simp only [joined, String.join_cons]

/-! ### Elements read back -/

/-- An open element with items read into it behind a text that was kept back. -/
def grown (top : Node) (kept : List Char) (items : List Item) : Node :=
  { top with
    children := (childrenOf items).reverse ++ top.children
    text := joined top.text (joined (written? kept) (textOf items)) }

section Grown

variable (top : Node) (kept : List Char) (items : List Item)

/-- One item is read, and the others behind it. -/
theorem grown_cons (i : Item) : grown top kept (i :: items) =
    grown { grown top kept [] with
      children := (childrenOf [i]).reverse ++ (grown top kept []).children
      text := joined (grown top kept []).text i.own? } [] items := by
  have hchildren : childrenOf (i :: items) = childrenOf [i] ++ childrenOf items := by
    cases i <;> rfl
  simp only [grown, hchildren, textOf_cons, textOf_nil, written?_nil, joined_none, none_joined,
    joined_assoc, List.reverse_append, List.append_assoc]
  rfl

theorem grown_text (s : String) : grown top kept (.text s :: items) =
    grown top (kept ++ s.toList) items := by
  have hown : (Item.text s).own? = written? s.toList := by simp [Item.own?, written?]
  have hchildren : childrenOf (.text s :: items) = childrenOf items := rfl
  rw [grown, grown, hchildren, textOf_cons, hown, written?_append, joined_assoc]

theorem grown_raw (r : RawSection) : grown top kept (.raw r :: items) =
    grown { grown top kept [] with text := joined (grown top kept []).text (some r.text) } []
      items :=
  grown_cons top kept items (.raw r)

/-- What adds nothing to the element only ends the text in front of it. -/
theorem grown_silent (i : Item) (hown : i.own? = none) (hchildren : childrenOf [i] = []) :
    grown top kept (i :: items) = grown (grown top kept []) [] items := by
  rw [grown_cons, hown, hchildren, joined_none]
  rfl

theorem grown_comment (c : Comment) : grown top kept (.comment c :: items) =
    grown (grown top kept []) [] items :=
  grown_silent top kept items (.comment c) rfl rfl

theorem grown_processing (p : Processing) : grown top kept (.processing p :: items) =
    grown (grown top kept []) [] items :=
  grown_silent top kept items (.processing p) rfl rfl

theorem grown_child (e : Element) : grown top kept (.child e :: items) =
    grown { grown top kept [] with children := e.node :: (grown top kept []).children } []
      items := by
  rw [grown_cons, Item.own?, joined_none]
  rfl

end Grown

/-- An open element in which nothing new was read. -/
theorem grown_nil (top : Node) : grown top [] [] = top := by
  cases top
  simp [grown, childrenOf, textOf_nil, written?_nil]

theorem write_cons (top : Node) (below roots : List Node) (cs : List Char) :
    Builder.write ⟨top :: below, roots⟩ cs =
      ⟨{ top with text := joined top.text (some (String.ofList cs)) } :: below, roots⟩ := by
  cases htext : top.text <;> simp only [Builder.write, htext, joined]

/-- A text that was kept back is read when markup or the end comes. -/
theorem leads_kept (kept : List Char) (top : Node) (below roots : List Node) {rest : List Char}
    (hrest : ∀ c ∈ rest.head?, c = '<') :
    Leads ⟨top :: below, roots⟩ (escape kept ++ rest) ⟨grown top kept [] :: below, roots⟩
      rest := by
  by_cases hkept : kept = []
  · subst hkept
    rw [grown_nil]
    exact .refl _ _
  · have hread := Leads.escapedUpTo kept hkept top below roots hrest
    have hsame : grown top kept [] =
        { top with text := some (top.text.getD "" ++ String.ofList kept) } := by
      cases htext : top.text <;>
        simp [grown, childrenOf, textOf_nil, written?, joined, hkept, htext]
    rwa [hsame]

theorem head_end : ∀ c ∈ ([] : List Char).head?, c = '<' := by simp

theorem head_markup (rest : List Char) : ∀ c ∈ ('<' :: rest).head?, c = '<' := by simp

/-- What is written of an element begins with a bracket. -/
theorem written_eq_cons (e : Element) : ∃ cs, e.written = '<' :: cs := by
  cases e with
  | alone tag => exact ⟨_, by rw [Element.written, Tag.alone]⟩
  | around tag items => exact ⟨_, by rw [Element.written, Tag.opened, List.cons_append]⟩

mutual

/-- **An element is read as its node.** -/
theorem leads_element (e : Element) (b : Builder) (rest : List Char) :
    Leads b (e.written ++ rest) (b.attach e.node) rest := by
  cases e with
  | alone tag =>
    rw [Element.written, Element.node, Tag.alone, List.cons_append, List.append_assoc]
    exact Leads.empty tag.name.isPlain tag.plainKeys_pairs tag.distinct_pairs b rest
  | around tag items =>
    have hopened := Leads.opening tag.name.isPlain tag.plainKeys_pairs tag.distinct_pairs b
      (escape [] ++ (writtenItems items ++ '<' :: '/' :: (tag.name.text.toList ++ '>' :: rest)))
    have hinside := leads_items items [] tag.node b.stack b.roots (head_markup
      ('/' :: (tag.name.text.toList ++ '>' :: rest)))
    have hclosed := Leads.closing (grown tag.node [] items) tag.name.isPlain b.stack b.roots rest
    have hnode : { grown tag.node [] items with
        children := (grown tag.node [] items).children.reverse } =
          (Element.around tag items).node := by
      simp [grown, Element.node, Tag.node, written?_nil]
    rw [hnode] at hclosed
    have hread := hopened.trans (hinside.trans hclosed)
    rw [Element.written, Tag.opened, Tag.closed]
    simpa [Tag.content, escape] using hread
termination_by structural e

/-- Items are read into the element that is open, behind a text that was kept back. -/
theorem leads_items (items : List Item) (kept : List Char) (top : Node) (below roots : List Node)
    {rest : List Char} (hrest : ∀ c ∈ rest.head?, c = '<') :
    Leads ⟨top :: below, roots⟩ (escape kept ++ (writtenItems items ++ rest))
      ⟨grown top kept items :: below, roots⟩ rest := by
  cases items with
  | nil => exact leads_kept kept top below roots hrest
  | cons i items =>
    cases i with
    | text s =>
      have hmore := leads_items items (kept ++ s.toList) top below roots hrest
      rw [writtenItems, grown_text]
      simpa [escape] using hmore
    | raw r =>
      have hraw := Leads.raw r.isRaw ⟨grown top kept [] :: below, roots⟩
        (writtenItems items ++ rest)
      have hmore := leads_items items [] { grown top kept [] with
        text := joined (grown top kept []).text (some r.text) } below roots hrest
      rw [write_cons, String.ofList_toList] at hraw
      have hread := (leads_kept kept top below roots (head_markup _)).trans (hraw.trans hmore)
      rw [writtenItems, grown_raw, RawSection.written]
      simpa using hread
    | comment c =>
      have hcomment := Leads.comment c.isComment ⟨grown top kept [] :: below, roots⟩
        (writtenItems items ++ rest)
      have hmore := leads_items items [] (grown top kept []) below roots hrest
      have hread := (leads_kept kept top below roots (head_markup _)).trans (hcomment.trans hmore)
      rw [writtenItems, grown_comment, Comment.written]
      simpa using hread
    | processing p =>
      have hinstruction := Leads.instruction p.isInstruction
        ⟨grown top kept [] :: below, roots⟩ (writtenItems items ++ rest)
      have hmore := leads_items items [] (grown top kept []) below roots hrest
      have hread :=
        (leads_kept kept top below roots (head_markup _)).trans (hinstruction.trans hmore)
      rw [writtenItems, grown_processing, Processing.written]
      simpa using hread
    | child e =>
      obtain ⟨cs, hcs⟩ := written_eq_cons e
      have hchild := leads_element e ⟨grown top kept [] :: below, roots⟩
        (writtenItems items ++ rest)
      have hmore := leads_items items [] { grown top kept [] with
        children := e.node :: (grown top kept []).children } below roots hrest
      rw [hcs, List.cons_append] at hchild
      have hread := (leads_kept kept top below roots (head_markup _)).trans (hchild.trans hmore)
      rw [writtenItems, grown_child, hcs]
      simpa using hread
termination_by structural items

end

/-! ## Documents -/

/-- White space. -/
structure Blank where
  text : String
  isBlank : ∀ c ∈ text.toList, isSpace c = true

/-- What may stand outside of the root. -/
inductive Aside where
  | blank (s : Blank)
  | comment (c : Comment)
  | processing (p : Processing)

/-- The same inside of an element. -/
def Aside.item : Aside → Item
  | blank s => .text s.text
  | comment c => .comment c
  | processing p => .processing p

/-- What stands outside of the root as it is written. -/
def writtenAsides : List Aside → List Char
  | [] => []
  | .blank s :: asides => s.text.toList ++ writtenAsides asides
  | .comment c :: asides => c.written ++ writtenAsides asides
  | .processing p :: asides => p.written ++ writtenAsides asides

theorem writtenItems_append (items more : List Item) :
    writtenItems (items ++ more) = writtenItems items ++ writtenItems more := by
  induction items with
  | nil => rfl
  | cons i items ih =>
    cases i <;> simp only [List.cons_append, writtenItems, ih, List.append_assoc]

theorem writtenItems_asides (asides : List Aside) :
    writtenItems (asides.map Aside.item) = writtenAsides asides := by
  induction asides with
  | nil => rfl
  | cons a asides ih =>
    cases a with
    | blank s =>
      have hself : escape s.text.toList = s.text.toList := by
        refine escape_eq_self fun c hc => ?_
        have hspace := s.isBlank c hc
        simp only [isSpace, Bool.or_eq_true, decide_eq_true_eq] at hspace
        obtain ((rfl | rfl) | rfl) | rfl := hspace <;> rfl
      rw [List.map_cons, Aside.item, writtenItems, writtenAsides, ih, hself]
    | comment c => rw [List.map_cons, Aside.item, writtenItems, writtenAsides, ih]
    | processing p => rw [List.map_cons, Aside.item, writtenItems, writtenAsides, ih]

/-- A blank has no bracket. -/
theorem Blank.not_mem_less (s : Blank) : '<' ∉ s.text.toList := by
  intro hless
  have hspace := s.isBlank '<' hless
  contradiction

/-- What stands outside of the root is passed over, behind a text that was kept back. -/
theorem leads_asides (asides : List Aside) {kept : List Char} (hkept : '<' ∉ kept)
    (roots : List Node) {rest : List Char} (hrest : ∀ c ∈ rest.head?, c = '<') :
    Leads ⟨[], roots⟩ (kept ++ (writtenAsides asides ++ rest)) ⟨[], roots⟩ rest := by
  have houtside {kept cs : List Char} (hkept : '<' ∉ kept) (hcs : ∀ c ∈ cs.head?, c = '<') :
      Leads ⟨[], roots⟩ (kept ++ cs) ⟨[], roots⟩ cs := by
    by_cases hnil : kept = []
    · subst hnil
      exact .refl _ _
    · exact Leads.textUpTo hnil hkept hcs fun _ => rfl
  induction asides generalizing kept with
  | nil => exact houtside hkept hrest
  | cons a asides ih =>
    have hmore : Leads ⟨[], roots⟩ (writtenAsides asides ++ rest) ⟨[], roots⟩ rest :=
      ih (List.not_mem_nil)
    cases a with
    | blank s =>
      have hread : Leads ⟨[], roots⟩ ((kept ++ s.text.toList) ++ (writtenAsides asides ++ rest))
          ⟨[], roots⟩ rest := ih (by simp [hkept, s.not_mem_less])
      rw [writtenAsides]
      simpa using hread
    | comment c =>
      have hread := (houtside hkept (head_markup _)).trans
        ((Leads.comment c.isComment ⟨[], roots⟩ _).trans hmore)
      rw [writtenAsides, Comment.written]
      simpa using hread
    | processing p =>
      have hread := (houtside hkept (head_markup _)).trans
        ((Leads.instruction p.isInstruction ⟨[], roots⟩ _).trans hmore)
      rw [writtenAsides, Processing.written]
      simpa using hread

/-- No byte order mark comes in front of markup. -/
theorem asides_ne_mark (asides : List Aside) (cs ds : List Char) :
    writtenAsides asides ++ '<' :: cs ≠ '\uFEFF' :: ds := by
  induction asides with
  | nil =>
    intro heq
    exact absurd (List.cons.inj heq).1 (by decide)
  | cons a asides ih =>
    cases a with
    | blank s =>
      rw [writtenAsides]
      cases hs : s.text.toList with
      | nil => exact ih
      | cons c more =>
        intro heq
        obtain rfl : c = '\uFEFF' := (List.cons.inj heq).1
        have hspace := s.isBlank '\uFEFF' (by rw [hs]; exact List.mem_cons_self)
        contradiction
    | comment c | processing p =>
      intro heq
      exact absurd (List.cons.inj heq).1 (by decide)

/-- A document is read as far as its elements say. -/
theorem readDocument_of_leads {asides : List Aside} {cs : List Char} {b : Builder}
    (h : Leads {} ('<' :: cs) b []) :
    readDocument (String.ofList (writtenAsides asides ++ '<' :: cs)) =
      b.root.map Node.children := by
  have hbefore := leads_asides asides List.not_mem_nil [] (head_markup cs)
  have hread := readOn_of_leads (hbefore.trans h) 0
  rw [List.nil_append] at hread
  rw [readDocument_eq, String.toList_ofList]
  · change (readOn ⟨[], []⟩ 0 (writtenAsides asides ++ '<' :: cs)).bind _ = _
    rw [hread]
    rfl
  · intro rest
    rw [String.toList_ofList]
    exact asides_ne_mark asides cs rest

/-- A document: a root, and what stands around it. -/
structure Document where
  before : List Aside
  root : Element
  behind : List Aside

namespace Document

/-- A document as it is written. -/
def source (d : Document) : String :=
  String.ofList (writtenAsides d.before ++ (d.root.written ++ writtenAsides d.behind))

/-- A document whose root has two tags, without the second of them. -/
def unclosed (before : List Aside) (tag : Tag) (items : List Item) (behind : List Aside) :
    String :=
  String.ofList
    (writtenAsides before ++ (tag.opened ++ (writtenItems items ++ writtenAsides behind)))

/-- A document with two elements outside of all others. -/
def twofold (before : List Aside) (first : Element) (between : List Aside) (second : Element)
    (behind : List Aside) : String :=
  String.ofList (writtenAsides before ++ (first.written ++
    (writtenAsides between ++ (second.written ++ writtenAsides behind))))

/-- What stands behind the last element. -/
theorem leads_behind (asides : List Aside) (roots : List Node) :
    Leads ⟨[], roots⟩ (writtenAsides asides) ⟨[], roots⟩ [] := by
  have hread := leads_asides asides List.not_mem_nil roots head_end
  simpa using hread

theorem readDocument_source (d : Document) :
    readDocument d.source = .ok d.root.node.children := by
  obtain ⟨cs, hcs⟩ := written_eq_cons d.root
  have hread := (leads_element d.root {} (writtenAsides d.behind)).trans (leads_behind d.behind _)
  rw [hcs, List.cons_append] at hread
  rw [source, hcs, List.cons_append, readDocument_of_leads hread]
  rfl

/-- What stands behind the root is read into it if it is not closed. -/
theorem readDocument_unclosed (before : List Aside) (tag : Tag) (items : List Item)
    (behind : List Aside) :
    readDocument (unclosed before tag items behind) = .error (.openElement tag.name.text) := by
  let inside := items ++ behind.map Aside.item
  have hopened := Leads.opening tag.name.isPlain tag.plainKeys_pairs tag.distinct_pairs {}
    (escape [] ++ (writtenItems inside ++ []))
  have hread := hopened.trans (leads_items inside [] tag.node [] [] head_end)
  have hsource : unclosed before tag items behind = String.ofList (writtenAsides before ++
      '<' :: (tagContent tag.name.text tag.pairs ++
        '>' :: (escape [] ++ (writtenItems inside ++ [])))) := by
    simp [unclosed, inside, writtenItems_append, writtenItems_asides, Tag.opened, Tag.content,
      escape]
  rw [hsource, readDocument_of_leads hread]
  rfl

theorem readDocument_twofold (before : List Aside) (first : Element) (between : List Aside)
    (second : Element) (behind : List Aside) :
    readDocument (twofold before first between second behind) = .error .manyRoots := by
  obtain ⟨cs, hcs⟩ := written_eq_cons first
  obtain ⟨ds, hds⟩ := written_eq_cons second
  have hsecond := (leads_element second ⟨[], [first.node]⟩ (writtenAsides behind)).trans
    (leads_behind behind _)
  rw [hds, List.cons_append] at hsecond
  have hread := (leads_element first {} (writtenAsides between ++
    '<' :: (ds ++ writtenAsides behind))).trans
      ((leads_asides between List.not_mem_nil _ (head_markup _)).trans hsecond)
  rw [hcs, List.cons_append] at hread
  rw [twofold, hcs, hds, List.cons_append, List.cons_append, readDocument_of_leads hread]
  rfl

/-- **Every document is read back.**

1. What is read of it is the nodes of the elements in its root, in order: each with its name,
   its attributes in order with what was escaped in their values, the nodes of the elements in
   it, and the texts that stand directly in it, put together.
2. If the tag behind the root is missing, the document is refused, and so is the program.
3. So it is if there are two elements that stand in no other. -/
theorem reads_back :
    (∀ d : Document, readDocument d.source = .ok d.root.node.children) ∧
      (∀ before tag items behind,
        readDocument (unclosed before tag items behind) = .error (.openElement tag.name.text) ∧
          ∀ (l : Library) id, l.insertDocument id (unclosed before tag items behind) =
            .error (.document (.openElement tag.name.text))) ∧
      ∀ before first between second behind,
        readDocument (twofold before first between second behind) = .error .manyRoots ∧
          ∀ (l : Library) id, l.insertDocument id (twofold before first between second behind) =
            .error (.document .manyRoots) := by
  refine ⟨readDocument_source, fun before tag items behind => ?_,
    fun before first between second behind => ?_⟩
  · have hread := readDocument_unclosed before tag items behind
    refine ⟨hread, fun l id => ?_⟩
    rw [Library.insertDocument, hread]
  · have hread := readDocument_twofold before first between second behind
    refine ⟨hread, fun l id => ?_⟩
    rw [Library.insertDocument, hread]

/-- An attribute and texts of both kinds, and a declaration in front. -/
example :
    let d : Document :=
      { before := [.processing ⟨"xml", by simp [IsInstruction, List.infix_cons_iff]⟩]
        root := .around ⟨⟨"p", rfl⟩, [(⟨"x:y", rfl⟩, "\"&")], by simp⟩
          [.text "1<", .raw ⟨"2<", by simp [IsRaw, List.infix_cons_iff]⟩]
        behind := [] }
    d.source = "<?xml?><p x:y=\"&quot;&amp;\">1&lt;<![CDATA[2<]]></p>" := by
  cbv

end Document

end ActionTree.Markup
