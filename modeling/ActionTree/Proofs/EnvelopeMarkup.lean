import ActionTree.Envelope.Markup
import ActionTree.Proofs.Markup

/-!
# ActionTree.Proofs.EnvelopeMarkup

The XML of an envelope can be read back.

1. a node *mirrors* a value if it has the value's name, key and kind, its children
   mirror what is in the value, in order, and its text is the value's own
   (`Mirrors`);
2. the element of a value is read as a node that mirrors it (`leads_element`);
3. in the indented form a node mirrors only one value, but for how numbers are kept
   (`Mirrors.sameTexts`).
-/

namespace ActionTree.Envelope

open Text ActionTree.Markup

/-! ## Names -/

theorem isPlain_of_isElementChar {c : Char} (h : isElementChar c = true) : isPlain c = true :=
  isPlain_of (by decide) h

theorem isPlain_of_isElementName {key : String} (h : isElementName key = true) :
    IsPlain key.toList := by
  unfold isElementName at h
  split at h
  · contradiction
  · next c cs heq =>
    rw [heq]
    simp only [Bool.and_eq_true, List.all_eq_true] at h
    exact ⟨List.cons_ne_nil c cs, fun d hd => isPlain_of_isElementChar (h.2 d hd)⟩

theorem isPlain_entryName (key : String) : IsPlain (entryName key).toList := by
  unfold entryName
  split
  · next h => exact isPlain_of_isElementName h
  · exact isPlain_of_all (by decide)

/-! ## Mirrors -/

/-- The name of a value's kind. -/
def kindOf : Value → String
  | .null => "null"
  | .boolean _ => "boolean"
  | .number _ => "number"
  | .text _ => "string"
  | .list _ => "array"
  | .record _ => "object"

/-- The attributes of an element: the key that it has to carry, and in the indented form
the kind of its value. -/
def elementAttributes (indented : Bool) (key : Option String) (kind : String) :
    List (String × String) :=
  (key.map fun k => ("key", k)).toList ++ (if indented then [("type", kind)] else [])

/-- No text, or one of nothing but white space. -/
def IsBlank (text : Option String) : Prop := ∀ s, text = some s → ∀ c ∈ s.toList, isSpace c = true

theorem isBlank_none : IsBlank none := by
  intro s hs
  contradiction

/-- The text of an element with a value that holds no others. -/
def textOf (v : Value) : Option String := if v.toText = "" then none else some v.toText

/-- The node of an element with a value that holds no others. -/
def leafNode (indented : Bool) (name : String) (key : Option String) (v : Value) : Node where
  name := name
  attributes := elementAttributes indented key (kindOf v)
  text := textOf v

mutual

/-- The node of an element mirrors a value. -/
def Mirrors (indented : Bool) (name : String) (key : Option String) : Value → Node → Prop
  | .null, n => n = leafNode indented name key .null
  | .boolean b, n => n = leafNode indented name key (.boolean b)
  | .number x, n => n = leafNode indented name key (.number x)
  | .text s, n => n = leafNode indented name key (.text s)
  | .list vs, n =>
    n.name = name ∧ n.attributes = elementAttributes indented key "array" ∧ IsBlank n.text ∧
      MirrorItems indented vs n.children
  | .record es, n =>
    n.name = name ∧ n.attributes = elementAttributes indented key "object" ∧ IsBlank n.text ∧
      MirrorEntries indented es n.children
termination_by structural v => v

/-- Nodes mirror the items of a list, in order. -/
def MirrorItems (indented : Bool) : List Value → List Node → Prop
  | [], ns => ns = []
  | v :: vs, ns =>
    ∃ n rest, ns = n :: rest ∧ Mirrors indented "item" none v n ∧ MirrorItems indented vs rest
termination_by structural vs => vs

/-- Nodes mirror the entries of a record, in order: each is named by its key, if that can
name an element, and otherwise carries it. -/
def MirrorEntries (indented : Bool) : List (String × Value) → List Node → Prop
  | [], ns => ns = []
  | (k, v) :: es, ns =>
    ∃ n rest, ns = n :: rest ∧
      (if isElementName k then Mirrors indented k none v n
        else Mirrors indented "item" (some k) v n) ∧
      MirrorEntries indented es rest
termination_by structural es => es

end

/-! ## Elements read back -/

theorem openTag_eq (indented : Bool) (name : String) (key : Option String) (kind : String)
    (rest : List Char) :
    openTag indented name key kind rest =
      '<' :: (tagContent name (elementAttributes indented key kind) ++ rest) := by
  cases key <;> cases indented <;>
    simp [openTag, tagContent, elementAttributes, writeAttribute?, writeAttribute,
      writtenAttribute]

theorem plainKeys_elementAttributes (indented : Bool) (key : Option String) (kind : String) :
    PlainKeys (elementAttributes indented key kind) := by
  intro a ha
  have hkey : a.1 = "key" ∨ a.1 = "type" := by
    cases key <;> cases indented <;> simp [elementAttributes] at ha
    · exact .inr (by rw [ha])
    · exact .inl (by rw [ha])
    · rcases ha with rfl | rfl
      · exact .inl rfl
      · exact .inr rfl
  rcases hkey with h | h
  · rw [h]
    exact isPlain_of_all (by decide)
  · rw [h]
    exact isPlain_of_all (by decide)

theorem distinct_elementAttributes (indented : Bool) (key : Option String) (kind : String) :
    ((elementAttributes indented key kind).map Prod.fst).Nodup := by
  cases key <;> cases indented <;> simp [elementAttributes]

/-- An element has gained children, and nothing else but blanks. -/
structure Grown (n n' : Node) (children : List Node) : Prop where
  name : n'.name = n.name
  attributes : n'.attributes = n.attributes
  children : n'.children = children.reverse ++ n.children
  blank : IsBlank n.text → IsBlank n'.text

theorem Grown.refl (n : Node) : Grown n n [] := ⟨rfl, rfl, rfl, id⟩

theorem Grown.trans {n n' n'' : Node} {first second : List Node} (h : Grown n n' first)
    (h' : Grown n' n'' second) : Grown n n'' (first ++ second) :=
  ⟨h'.name.trans h.name, h'.attributes.trans h.attributes,
    by rw [h'.children, h.children, List.reverse_append, List.append_assoc],
    fun hn => h'.blank (h.blank hn)⟩

/-- An open element with a finished one inside. -/
def adopt (parent child : Node) : Node := { parent with children := child :: parent.children }

theorem attach_cons (top child : Node) (below roots : List Node) :
    Builder.attach ⟨top :: below, roots⟩ child = ⟨adopt top child :: below, roots⟩ := rfl

theorem Grown.adopt (parent child : Node) : Grown parent (adopt parent child) [child] :=
  ⟨rfl, rfl, rfl, id⟩

theorem Grown.blanks (n : Node) {cs : List Char} (hcs : ∀ c ∈ cs, isSpace c = true) :
    Grown n { n with text := some (n.text.getD "" ++ String.ofList cs) } [] := by
  refine ⟨rfl, rfl, rfl, fun hblank s hs c hc => ?_⟩
  rw [Option.some.injEq] at hs
  rw [← hs, String.toList_append, String.toList_ofList, List.mem_append] at hc
  rcases hc with hc | hc
  · cases htext : n.text with
    | none => simp [htext] at hc
    | some before =>
      rw [htext] at hc
      exact hblank before htext c hc
  · exact hcs c hc

/-- What a line break writes. -/
def lineBreak (level : Nat) : List Char := '\n' :: List.replicate (2 * level) ' '

theorem mem_lineBreak {level : Nat} {c : Char} (h : c ∈ lineBreak level) : c = '\n' ∨ c = ' ' := by
  rcases List.mem_cons.mp h with h | h
  · exact .inl h
  · exact .inr (List.mem_replicate.mp h).2

theorem escape_lineBreak (level : Nat) : escape (lineBreak level) = lineBreak level := by
  refine escape_eq_self fun c hc => ?_
  rcases mem_lineBreak hc with rfl | rfl <;> rfl

/-- A line break is blank text of the element that it stands in. -/
theorem leads_break (indented : Bool) (level : Nat) (top : Node) (below roots : List Node)
    (rest : List Char) :
    ∃ top', Grown top top' [] ∧ Leads ⟨top :: below, roots⟩ (breakLine indented level ('<' :: rest))
      ⟨top' :: below, roots⟩ ('<' :: rest) := by
  cases indented with
  | false => exact ⟨top, .refl top, .refl _ _⟩
  | true =>
    have hwritten :
        breakLine true level ('<' :: rest) = escape (lineBreak level) ++ '<' :: rest := by
      rw [escape_lineBreak]
      rfl
    have hleads := Leads.escaped (lineBreak level) (List.cons_ne_nil _ _) top below roots rest
    rw [← hwritten] at hleads
    refine ⟨_, .blanks top fun c hc => ?_, hleads⟩
    rcases mem_lineBreak hc with rfl | rfl <;> rfl

section Elements

variable (indented : Bool) (level : Nat) {name : String} (hname : IsPlain name.toList)
  (key : Option String) (top : Node) (below roots : List Node) (rest : List Char)

include hname

/-- A tag that closes itself is a child without children and text. -/
theorem leads_empty (kind : String) :
    ∃ top', Grown top top' [{ name, attributes := elementAttributes indented key kind }] ∧
      Leads ⟨top :: below, roots⟩
        (breakLine indented level (openTag indented name key kind ('/' :: '>' :: rest)))
        ⟨top' :: below, roots⟩ rest := by
  rw [openTag_eq]
  obtain ⟨top', hgrown, hbreak⟩ := leads_break indented level top below roots
    (tagContent name (elementAttributes indented key kind) ++ '/' :: '>' :: rest)
  have htag := Leads.empty hname (plainKeys_elementAttributes indented key kind)
    (distinct_elementAttributes indented key kind) ⟨top' :: below, roots⟩ rest
  rw [attach_cons] at htag
  exact ⟨_, hgrown.trans (.adopt _ _), hbreak.trans htag⟩

/-- A text between two tags is the text of a child without children. -/
theorem leads_leaf (kind text : String) :
    ∃ top', Grown top top'
        [{ name, attributes := elementAttributes indented key kind,
           text := if text = "" then none else some text }] ∧
      Leads ⟨top :: below, roots⟩
        (breakLine indented level (openTag indented name key kind
          ('>' :: (escape text.toList ++ closeTag name rest))))
        ⟨top' :: below, roots⟩ rest := by
  rw [openTag_eq]
  obtain ⟨top', hgrown, hbreak⟩ := leads_break indented level top below roots
    (tagContent name (elementAttributes indented key kind) ++
      '>' :: (escape text.toList ++ closeTag name rest))
  have htag := Leads.opening hname (plainKeys_elementAttributes indented key kind)
    (distinct_elementAttributes indented key kind) ⟨top' :: below, roots⟩
    (escape text.toList ++ closeTag name rest)
  by_cases htext : text = ""
  · subst htext
    have hclose := Leads.closing
      { name, attributes := elementAttributes indented key kind } hname
      (top' :: below) roots rest
    rw [attach_cons] at hclose
    exact ⟨_, hgrown.trans (.adopt _ _), hbreak.trans (htag.trans hclose)⟩
  · have hnonempty : text.toList ≠ [] := by
      simpa using htext
    have hwrite := Leads.escaped text.toList hnonempty
      { name, attributes := elementAttributes indented key kind } (top' :: below) roots
      ('/' :: (name.toList ++ '>' :: rest))
    have hclose := Leads.closing
      { name, attributes := elementAttributes indented key kind, text := some text } hname
      (top' :: below) roots rest
    rw [String.ofList_toList, Option.getD_none, String.empty_append] at hwrite
    rw [attach_cons] at hclose
    rw [if_neg htext]
    exact ⟨_, hgrown.trans (.adopt _ _), hbreak.trans (htag.trans (hwrite.trans hclose))⟩

/-- What stands between two tags becomes the children of a child. -/
theorem leads_container (kind : String) {inner : List Char → List Char} {P : List Node → Prop}
    (hinner : ∀ (top : Node) (below : List Node) (rest : List Char), ∃ ns top', P ns ∧
      Grown top top' ns ∧ Leads ⟨top :: below, roots⟩ (inner rest) ⟨top' :: below, roots⟩ rest) :
    ∃ n top', (n.name = name ∧ n.attributes = elementAttributes indented key kind ∧
        IsBlank n.text ∧ P n.children) ∧
      Grown top top' [n] ∧
      Leads ⟨top :: below, roots⟩
        (breakLine indented level (openTag indented name key kind
          ('>' :: inner (breakLine indented level (closeTag name rest)))))
        ⟨top' :: below, roots⟩ rest := by
  rw [openTag_eq]
  obtain ⟨top', hgrown, hbreak⟩ := leads_break indented level top below roots
    (tagContent name (elementAttributes indented key kind) ++
      '>' :: inner (breakLine indented level (closeTag name rest)))
  have htag := Leads.opening hname (plainKeys_elementAttributes indented key kind)
    (distinct_elementAttributes indented key kind) ⟨top' :: below, roots⟩
    (inner (breakLine indented level (closeTag name rest)))
  obtain ⟨ns, n, hP, hn, hinside⟩ := hinner
    { name, attributes := elementAttributes indented key kind } (top' :: below)
    (breakLine indented level (closeTag name rest))
  obtain ⟨n', hn', hlast⟩ := leads_break indented level n (top' :: below) roots
    ('/' :: (name.toList ++ '>' :: rest))
  have hgrown' := hn.trans hn'
  rw [List.append_nil] at hgrown'
  have hclose := Leads.closing n' (by rw [hgrown'.name]; exact hname) (top' :: below)
    roots rest
  rw [attach_cons, hgrown'.name] at hclose
  refine ⟨{ n' with name := name, children := n'.children.reverse }, _,
    ⟨rfl, hgrown'.attributes, hgrown'.blank isBlank_none, ?_⟩, hgrown.trans (.adopt _ _),
    hbreak.trans (htag.trans (hinside.trans (hlast.trans hclose)))⟩
  rw [hgrown'.children, List.append_nil, List.reverse_reverse]
  exact hP

end Elements

theorem writeElement_list (indented : Bool) (level : Nat) (name : String) (key : Option String)
    (v : Value) (vs : List Value) (rest : List Char) :
    writeElement indented level name key (.list (v :: vs)) rest =
      breakLine indented level (openTag indented name key "array"
        ('>' :: writeItems indented (level + 1) (v :: vs)
          (breakLine indented level (closeTag name rest)))) := by
  rw [writeElement, writeItems]

theorem writeElement_record (indented : Bool) (level : Nat) (name : String) (key : Option String)
    (e : String × Value) (es : List (String × Value)) (rest : List Char) :
    writeElement indented level name key (.record (e :: es)) rest =
      breakLine indented level (openTag indented name key "object"
        ('>' :: writeEntries indented (level + 1) (e :: es)
          (breakLine indented level (closeTag name rest)))) := by
  obtain ⟨k, v⟩ := e
  rw [writeElement, writeEntries]

mutual

/-- **An element is read as a node that mirrors its value.** -/
theorem leads_element (indented : Bool) (level : Nat) (name : String) (key : Option String)
    (v : Value) (hname : IsPlain name.toList) (top : Node) (below roots : List Node)
    (rest : List Char) :
    ∃ n top', Mirrors indented name key v n ∧ Grown top top' [n] ∧
      Leads ⟨top :: below, roots⟩ (writeElement indented level name key v rest)
        ⟨top' :: below, roots⟩ rest := by
  cases v with
  | null =>
    obtain ⟨top', hgrown, hleads⟩ :=
      leads_empty indented level hname key top below roots rest "null"
    exact ⟨_, top', rfl, hgrown, hleads⟩
  | boolean b =>
    obtain ⟨top', hgrown, hleads⟩ :=
      leads_leaf indented level hname key top below roots rest "boolean" (Value.boolean b).toText
    exact ⟨_, top', rfl, hgrown, hleads⟩
  | number x =>
    obtain ⟨top', hgrown, hleads⟩ :=
      leads_leaf indented level hname key top below roots rest "number" (Value.number x).toText
    exact ⟨_, top', rfl, hgrown, hleads⟩
  | text s =>
    obtain ⟨top', hgrown, hleads⟩ :=
      leads_leaf indented level hname key top below roots rest "string" s
    exact ⟨_, top', rfl, hgrown, hleads⟩
  | list vs =>
    have hinner := fun top below => leads_items indented (level + 1) vs top below roots
    cases vs with
    | nil =>
      obtain ⟨top', hgrown, hleads⟩ :=
        leads_empty indented level hname key top below roots rest "array"
      exact ⟨{ name, attributes := _ }, top', ⟨rfl, rfl, isBlank_none, rfl⟩, hgrown, hleads⟩
    | cons v vs =>
      rw [writeElement_list]
      exact leads_container indented level hname key top below roots rest "array" hinner
  | record es =>
    have hinner := fun top below => leads_entries indented (level + 1) es top below roots
    cases es with
    | nil =>
      obtain ⟨top', hgrown, hleads⟩ :=
        leads_empty indented level hname key top below roots rest "object"
      exact ⟨{ name, attributes := _ }, top', ⟨rfl, rfl, isBlank_none, rfl⟩, hgrown, hleads⟩
    | cons e es =>
      rw [writeElement_record]
      exact leads_container indented level hname key top below roots rest "object" hinner
termination_by structural v

theorem leads_items (indented : Bool) (level : Nat) (vs : List Value) (top : Node)
    (below roots : List Node) (rest : List Char) :
    ∃ ns top', MirrorItems indented vs ns ∧ Grown top top' ns ∧
      Leads ⟨top :: below, roots⟩ (writeItems indented level vs rest)
        ⟨top' :: below, roots⟩ rest := by
  cases vs with
  | nil => exact ⟨[], top, rfl, .refl top, .refl _ _⟩
  | cons v vs =>
    obtain ⟨n, top', hn, hgrown, hleads⟩ := leads_element indented level "item" none v
      (isPlain_of_all (by decide)) top below roots (writeItems indented level vs rest)
    obtain ⟨ns, top'', hns, hgrown', hleads'⟩ := leads_items indented level vs top' below roots rest
    exact ⟨n :: ns, top'', ⟨n, ns, rfl, hn, hns⟩, hgrown.trans hgrown', hleads.trans hleads'⟩
termination_by structural vs

theorem leads_entries (indented : Bool) (level : Nat) (es : List (String × Value)) (top : Node)
    (below roots : List Node) (rest : List Char) :
    ∃ ns top', MirrorEntries indented es ns ∧ Grown top top' ns ∧
      Leads ⟨top :: below, roots⟩ (writeEntries indented level es rest)
        ⟨top' :: below, roots⟩ rest := by
  cases es with
  | nil => exact ⟨[], top, rfl, .refl top, .refl _ _⟩
  | cons e es =>
    obtain ⟨k, v⟩ := e
    obtain ⟨n, top', hn, hgrown, hleads⟩ := leads_element indented level (entryName k)
      (entryKey k) v (isPlain_entryName k) top below roots (writeEntries indented level es rest)
    obtain ⟨ns, top'', hns, hgrown', hleads'⟩ :=
      leads_entries indented level es top' below roots rest
    refine ⟨n :: ns, top'', ⟨n, ns, rfl, ?_, hns⟩, hgrown.trans hgrown', hleads.trans hleads'⟩
    rw [entryName, entryKey] at hn
    split
    · next hk => rwa [if_pos hk, if_pos hk] at hn
    · next hk => rwa [if_neg hk, if_neg hk] at hn
termination_by structural es

end

/-! ## Documents read back -/

/-- The attributes of the root. -/
def rootAttributes (e : Envelope) : List (String × String) :=
  ("status", toString e.status) :: (e.message.map fun m => ("message", m)).toList

theorem plainKeys_rootAttributes (e : Envelope) : PlainKeys (rootAttributes e) := by
  intro a ha
  have hkey : a.1 = "status" ∨ a.1 = "message" := by
    cases hm : e.message <;> simp [rootAttributes, hm] at ha
    · exact .inl (by rw [ha])
    · rcases ha with rfl | rfl
      · exact .inl rfl
      · exact .inr rfl
  rcases hkey with h | h
  · rw [h]
    exact isPlain_of_all (by decide)
  · rw [h]
    exact isPlain_of_all (by decide)

theorem distinct_rootAttributes (e : Envelope) : ((rootAttributes e).map Prod.fst).Nodup := by
  cases hm : e.message <;> simp [rootAttributes, hm]

/-- A document: its declaration, and its root around the element of the payload. -/
theorem writeDocument_eq (indented : Bool) (e : Envelope) :
    writeDocument indented e = declaration.toList ++ breakLine indented 0 ('<' ::
      (tagContent "response" (rootAttributes e) ++ '>' ::
        writeElement indented 1 "payload" none e.payload
          (breakLine indented 0 (closeTag "response" [])))) := by
  cases hm : e.message <;>
    simp [writeDocument, tagContent, rootAttributes, writeAttribute?, writeAttribute,
      writtenAttribute, hm]

theorem leads_declaration (rest : List Char) :
    Leads {} (declaration.toList ++ rest) {} rest :=
  Leads.markup (fun _ => rfl) fun _ => rfl

/-- A line break outside of the root. -/
theorem leads_break_outside (indented : Bool) (level : Nat) (roots : List Node)
    (rest : List Char) :
    Leads ⟨[], roots⟩ (breakLine indented level ('<' :: rest)) ⟨[], roots⟩ ('<' :: rest) := by
  cases indented with
  | false => exact .refl _ _
  | true =>
    refine Leads.outside (lineBreak level) (List.cons_ne_nil _ _) (fun h => ?_) roots rest
    rcases mem_lineBreak h with h | h <;> contradiction

/-- The document of an envelope has a root with the status and the message, and in it one
node that mirrors the payload. -/
theorem readOn_document (indented : Bool) (e : Envelope) :
    ∃ root n, readOn {} 0 (writeDocument indented e) = .ok ⟨[], [root]⟩ ∧
      root.attributes = rootAttributes e ∧ root.children = [n] ∧
      Mirrors indented "payload" none e.payload n := by
  have hname : IsPlain "response".toList := isPlain_of_all (by decide)
  let last := breakLine indented 0 (closeTag "response" [])
  let inner := writeElement indented 1 "payload" none e.payload last
  have hdeclaration := leads_declaration (breakLine indented 0
    ('<' :: (tagContent "response" (rootAttributes e) ++ '>' :: inner)))
  have hbreak := leads_break_outside indented 0 []
    (tagContent "response" (rootAttributes e) ++ '>' :: inner)
  have hopen :=
    Leads.opening hname (plainKeys_rootAttributes e) (distinct_rootAttributes e) {} inner
  obtain ⟨n, root, hn, hroot, hpayload⟩ := leads_element indented 1 "payload" none e.payload
    (isPlain_of_all (by decide)) { name := "response", attributes := rootAttributes e } [] [] last
  obtain ⟨root', hroot', hlast⟩ := leads_break indented 0 root [] []
    ('/' :: ("response".toList ++ ['>']))
  have hgrown := hroot.trans hroot'
  have hclose := Leads.closing root' (by rw [hgrown.name]; exact hname) [] [] []
  rw [hgrown.name] at hclose
  refine ⟨{ root' with name := "response", children := root'.children.reverse }, n, ?_,
    hgrown.attributes, ?_, hn⟩
  · rw [writeDocument_eq]
    exact readOn_of_leads (hdeclaration.trans (hbreak.trans (hopen.trans (hpayload.trans
      (hlast.trans hclose))))) 0
  · simp [hgrown.children]

theorem toList_serialize_xml (e : Envelope) : (e.serialize .xml).toList = writeDocument false e :=
  String.toList_ofList

theorem toList_serialize_xmlDebug (e : Envelope) :
    (e.serialize .xmlDebug).toList = writeDocument true e := String.toList_ofList

theorem readDocument_written {source : String} {indented : Bool} {e : Envelope}
    (h : source.toList = writeDocument indented e) :
    ∃ n, readDocument source = .ok [n] ∧ Mirrors indented "payload" none e.payload n := by
  obtain ⟨root, n, hread, -, hchildren, hn⟩ := readOn_document indented e
  refine ⟨n, ?_, hn⟩
  rw [readDocument_eq, h, hread]
  · rw [← hchildren]
    rfl
  · intro rest hrest
    rw [h, writeDocument_eq] at hrest
    exact absurd (List.cons.inj hrest).1 (by decide)

/-! ## What a document tells of its envelope -/

mutual

/-- Values that are the same but for how their numbers are kept. -/
inductive SameTexts : Value → Value → Prop where
  | null : SameTexts .null .null
  | boolean (b : Bool) : SameTexts (.boolean b) (.boolean b)
  | number {x y : Number} (h : x.text = y.text) : SameTexts (.number x) (.number y)
  | text (s : String) : SameTexts (.text s) (.text s)
  | list {vs ws : List Value} (h : SameItems vs ws) : SameTexts (.list vs) (.list ws)
  | record {es fs : List (String × Value)} (h : SameEntries es fs) :
      SameTexts (.record es) (.record fs)

/-- The same items, in the same order. -/
inductive SameItems : List Value → List Value → Prop where
  | nil : SameItems [] []
  | cons {v w : Value} {vs ws : List Value} (h : SameTexts v w) (hs : SameItems vs ws) :
      SameItems (v :: vs) (w :: ws)

/-- The same entries under the same keys, in the same order. -/
inductive SameEntries : List (String × Value) → List (String × Value) → Prop where
  | nil : SameEntries [] []
  | cons {k : String} {v w : Value} {es fs : List (String × Value)} (h : SameTexts v w)
      (hs : SameEntries es fs) : SameEntries ((k, v) :: es) ((k, w) :: fs)

end

theorem textOf_inj {v w : Value} (h : textOf v = textOf w) : v.toText = w.toText := by
  unfold textOf at h
  split at h
  · next hv =>
    split at h
    · next hw => rw [hv, hw]
    · contradiction
  · split at h
    · contradiction
    · exact Option.some.inj h

theorem elementAttributes_inj {key key' : Option String} {kind kind' : String}
    (h : elementAttributes true key kind = elementAttributes true key' kind') :
    key = key' ∧ kind = kind' := by
  cases key <;> cases key' <;> simp_all [elementAttributes]

namespace Mirrors

variable {indented : Bool} {name name' : String} {key key' : Option String} {v w : Value}
  {n : Node}

theorem name_eq (h : Mirrors indented name key v n) : n.name = name := by
  cases v with
  | list vs => exact h.1
  | record es => exact h.1
  | _ =>
    obtain rfl := h
    rfl

theorem attributes_eq (h : Mirrors indented name key v n) :
    n.attributes = elementAttributes indented key (kindOf v) := by
  cases v with
  | list vs => exact h.2.1
  | record es => exact h.2.1
  | _ =>
    obtain rfl := h
    rfl

/-- In the indented form a node tells the key and the kind. -/
theorem kind_eq (h : Mirrors true name key v n) (h' : Mirrors true name' key' w n) :
    key = key' ∧ kindOf v = kindOf w :=
  elementAttributes_inj (h.attributes_eq.symm.trans h'.attributes_eq)

end Mirrors

/-- A value that holds no others is told by its text. -/
theorem Mirrors.toText_eq {name : String} {key : Option String} {v w : Value} {n : Node}
    (hv : n = leafNode true name key v) (hw : n = leafNode true name key w) :
    v.toText = w.toText :=
  textOf_inj (congrArg Node.text (hv.symm.trans hw))

/-- A node is named by the key of its entry or carries it. -/
theorem entry_inj {k k' : String} {v w : Value} {n : Node}
    (h : if isElementName k then Mirrors true k none v n else Mirrors true "item" (some k) v n)
    (h' : if isElementName k' then Mirrors true k' none w n
      else Mirrors true "item" (some k') w n) :
    k = k' ∧ ∃ name key, Mirrors true name key v n ∧ Mirrors true name key w n := by
  by_cases hk : isElementName k
  · by_cases hk' : isElementName k'
    · rw [if_pos hk] at h
      rw [if_pos hk'] at h'
      obtain rfl : k = k' := h.name_eq.symm.trans h'.name_eq
      exact ⟨rfl, k, none, h, h'⟩
    · rw [if_pos hk] at h
      rw [if_neg hk'] at h'
      exact absurd (h.kind_eq h').1 nofun
  · by_cases hk' : isElementName k'
    · rw [if_neg hk] at h
      rw [if_pos hk'] at h'
      exact absurd (h.kind_eq h').1 nofun
    · rw [if_neg hk] at h
      rw [if_neg hk'] at h'
      obtain rfl : k = k' := Option.some.inj (h.kind_eq h').1
      exact ⟨rfl, "item", some k, h, h'⟩

mutual

/-- **In the indented form a node mirrors one value only**, but for how numbers are
kept. -/
theorem Mirrors.sameTexts (v w : Value) {name : String} {key : Option String} {n : Node}
    (h : Mirrors true name key v n) (h' : Mirrors true name key w n) : SameTexts v w := by
  have hkind := (h.kind_eq h').2
  cases v with
  | null =>
    cases w <;> simp [kindOf] at hkind
    exact .null
  | boolean b =>
    cases w <;> simp [kindOf] at hkind
    next b' =>
      have htext := Mirrors.toText_eq h h'
      cases b <;> cases b' <;> simp [Value.toText] at htext <;> exact .boolean _
  | number x =>
    cases w <;> simp [kindOf] at hkind
    exact .number (Mirrors.toText_eq h h')
  | text s =>
    cases w <;> simp [kindOf] at hkind
    next t =>
      obtain rfl : s = t := Mirrors.toText_eq h h'
      exact .text s
  | list vs =>
    cases w <;> simp [kindOf] at hkind
    next ws => exact .list (MirrorItems.sameItems vs ws h.2.2.2 h'.2.2.2)
  | record es =>
    cases w <;> simp [kindOf] at hkind
    next fs => exact .record (MirrorEntries.sameEntries es fs h.2.2.2 h'.2.2.2)
termination_by structural v

theorem MirrorItems.sameItems (vs ws : List Value) {ns : List Node}
    (h : MirrorItems true vs ns) (h' : MirrorItems true ws ns) : SameItems vs ws := by
  cases vs with
  | nil =>
    obtain rfl : ns = [] := h
    cases ws with
    | nil => exact .nil
    | cons w ws =>
      obtain ⟨n, rest, hns, -⟩ := h'
      contradiction
  | cons v vs =>
    obtain ⟨n, rest, rfl, hv, hvs⟩ := h
    cases ws with
    | nil =>
      have hns : n :: rest = [] := h'
      contradiction
    | cons w ws =>
      obtain ⟨n', rest', hns, hw, hws⟩ := h'
      obtain ⟨rfl, rfl⟩ := List.cons.inj hns
      exact .cons (Mirrors.sameTexts v w hv hw) (MirrorItems.sameItems vs ws hvs hws)
termination_by structural vs

theorem MirrorEntries.sameEntries (es fs : List (String × Value)) {ns : List Node}
    (h : MirrorEntries true es ns) (h' : MirrorEntries true fs ns) : SameEntries es fs := by
  cases es with
  | nil =>
    obtain rfl : ns = [] := h
    cases fs with
    | nil => exact .nil
    | cons f fs =>
      obtain ⟨n, rest, hns, -⟩ := h'
      contradiction
  | cons e es =>
    obtain ⟨k, v⟩ := e
    obtain ⟨n, rest, rfl, hv, hes⟩ := h
    cases fs with
    | nil =>
      have hns : n :: rest = [] := h'
      contradiction
    | cons f fs =>
      obtain ⟨k', w⟩ := f
      obtain ⟨n', rest', hns, hw, hfs⟩ := h'
      obtain ⟨rfl, rfl⟩ := List.cons.inj hns
      obtain ⟨rfl, name, key, hmv, hmw⟩ := entry_inj hv hw
      exact .cons (Mirrors.sameTexts v w hmv hmw) (MirrorEntries.sameEntries es fs hes hfs)
termination_by structural es

end

/-- The attributes of the root tell the status and the message. -/
theorem rootAttributes_inj {e e' : Envelope} (h : rootAttributes e = rootAttributes e') :
    e.status = e'.status ∧ e.message = e'.message := by
  obtain ⟨hstatus, hmessage⟩ := List.cons.inj h
  have hdigits : digitsOf e.status = digitsOf e'.status := by
    have htext : toString e.status = toString e'.status := (Prod.mk.inj hstatus).2
    have hchars := congrArg String.toList htext
    simpa [digitsOf] using hchars
  refine ⟨?_, ?_⟩
  · rw [← numberOf_digitsOf e.status, hdigits, numberOf_digitsOf]
  · cases hm : e.message <;> cases hm' : e'.message <;> simp_all

/-- **The XML of an envelope can be read back.**  In both forms the document has one node,
which is named `payload` and mirrors the payload; and the indented document tells the
status, the message, and the payload, but for how numbers are kept. -/
theorem xml_reads_back (e : Envelope) :
    (∃ n, readDocument (e.serialize .xml) = .ok [n] ∧
        Mirrors false "payload" none e.payload n) ∧
      (∃ n, readDocument (e.serialize .xmlDebug) = .ok [n] ∧
        Mirrors true "payload" none e.payload n) ∧
      ∀ e' : Envelope, e.serialize .xmlDebug = e'.serialize .xmlDebug →
        e.status = e'.status ∧ e.message = e'.message ∧ SameTexts e.payload e'.payload := by
  refine ⟨readDocument_written (toList_serialize_xml e),
    readDocument_written (toList_serialize_xmlDebug e), fun e' h => ?_⟩
  have hwritten : writeDocument true e = writeDocument true e' := by
    rw [← toList_serialize_xmlDebug, h, toList_serialize_xmlDebug]
  obtain ⟨root, n, hread, hattributes, hchildren, hn⟩ := readOn_document true e
  obtain ⟨root', n', hread', hattributes', hchildren', hn'⟩ := readOn_document true e'
  rw [hwritten, hread'] at hread
  obtain rfl : root' = root := by
    cases hread
    rfl
  obtain rfl : n' = n := by
    rw [hchildren] at hchildren'
    exact (List.cons.inj hchildren').1.symm
  obtain ⟨hstatus, hmessage⟩ := rootAttributes_inj (hattributes.symm.trans hattributes')
  exact ⟨hstatus, hmessage, Mirrors.sameTexts _ _ hn hn'⟩

end ActionTree.Envelope
