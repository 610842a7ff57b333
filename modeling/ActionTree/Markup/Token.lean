import ActionTree.Markup.Fault
import ActionTree.Text.Utf8
import ActionTree.Text.Split

/-!
# ActionTree.Markup.Token

Documents as tokens.

1. `<` starts markup, and what stands between markup is text;
2. a tag ends at the first `>` outside quotes, a closing tag too; a comment at
   `-->`, a raw section at `]]>`, an instruction at `?>`, a document type at the
   `>` that balances its brackets;
3. comments, instructions, declarations and document types carry nothing, so
   they are one kind of token;
4. every token knows the byte behind it, counted from the start of the document
   without a byte order mark.

The scan does not look into tags and does not know which elements are open:
both are later readings of the same tokens.
-/

namespace ActionTree.Markup

open Text

/-! ## Types -/

/-- What a token is. -/
inductive TokenKind where
  /-- An opening tag, the brackets taken off. -/
  | opening (content : List Char)
  /-- A tag that closes itself, the brackets and the slash taken off. -/
  | empty (content : List Char)
  /-- A closing tag, the brackets and the slash taken off. -/
  | closing (content : List Char)
  /-- Text as it is written. -/
  | text (raw : List Char)
  /-- Text that has no references. -/
  | raw (text : List Char)
  /-- Markup that carries nothing. -/
  | silent
deriving Repr

/-- A token and the byte behind it. -/
structure Token where
  kind : TokenKind
  stop : Nat
deriving Repr

/-! ## Where markup ends -/

/-- The characters up to a `>` outside quotes and those behind it. -/
def upToTagEnd : (quote : Option Char) → List Char → Option (List Char × List Char)
  | _, [] => none
  | none, c :: cs =>
    if c = '>' then some ([], cs)
    else
      (upToTagEnd (if c = '"' || c = '\'' then some c else none) cs).map
        fun (content, rest) => (c :: content, rest)
  | some q, c :: cs =>
    (upToTagEnd (if c = q then none else some q) cs).map
      fun (content, rest) => (c :: content, rest)

/-- The characters up to the first `>` before which `ends` holds of what has
been seen, the latest character first, and those behind it. -/
def upToMark (ends : List Char → Bool) (seen : List Char) :
    List Char → Option (List Char × List Char)
  | [] => none
  | c :: cs =>
    if c = '>' && ends seen then some (seen.reverse, cs) else upToMark ends (c :: seen) cs

/-- A comment ends behind two hyphens that are not those it starts with. -/
def commentEnds (seen : List Char) : Bool :=
  4 < seen.length && seen.head? = some '-' && seen.tail.head? = some '-'

/-- A raw section ends behind two brackets. -/
def rawEnds (seen : List Char) : Bool :=
  seen.head? = some ']' && seen.tail.head? = some ']'

/-- A document type ends where its brackets balance. -/
def doctypeEnds (seen : List Char) : Bool := seen.count '<' == seen.count '>'

/-- An instruction ends behind a question mark. -/
def instructionEnds (seen : List Char) : Bool := seen.head? = some '?'

/-! ## Markup -/

/-- White space inside tags. -/
def isSpace (c : Char) : Bool := c = ' ' || c = '\r' || c = '\n' || c = '\t'

/-- What the scan found: a token's kind, the characters behind the token. -/
abbrev Scanned := TokenKind × List Char

/-- A comment, behind its `<`; the `!` is part of what is scanned. -/
def scanComment (cs : List Char) : Option (Except ScanFault TokenKind × List Char) :=
  (upToMark commentEnds [] cs).map fun (content, rest) =>
    match content with
    | '!' :: '-' :: '-' :: _ => (.ok .silent, rest)
    | _ => (.error .openComment, rest)

/-- The text of a raw section whose start has been taken off. -/
def rawText (cs : List Char) : List Char := cs.take (cs.length - 2)

/-- A raw section, behind its `<`. -/
def scanRaw (cs : List Char) : Option (Except ScanFault TokenKind × List Char) :=
  (upToMark rawEnds [] cs).map fun (content, rest) =>
    match stripStartChars "![CDATA[".toList content with
    | some text => (.ok (.raw (rawText text)), rest)
    | none => (.error .openRaw, rest)

/-- An instruction or a declaration, behind its `<`. -/
def scanInstruction (cs : List Char) : Option (Except ScanFault TokenKind × List Char) :=
  (upToMark instructionEnds [] cs).map fun (content, rest) =>
    if 1 < content.length then (.ok .silent, rest) else (.error .openInstruction, rest)

/-- The outcome of a scan that had the document up to byte `atEnd` before it;
`unclosed` is the fault of a scan that found no end. -/
def finish (atEnd : Nat) (unclosed : ScanFault)
    (r : Option (Except ScanFault TokenKind × List Char)) : Except Fault Scanned :=
  match r with
  | none => .error (.scan atEnd unclosed)
  | some (.error f, rest) => .error (.scan (atEnd - sizeOfChars rest) f)
  | some (.ok k, rest) => .ok (k, rest)

/-- The first token of markup behind its `<`, and the characters behind the
token; `start` is the byte behind the `<`. -/
def scanMarkup (start : Nat) (cs : List Char) : Except Fault Scanned :=
  let atEnd := start + sizeOfChars cs
  match cs with
  | '!' :: '-' :: _ => finish atEnd .openComment (scanComment cs)
  | '!' :: '[' :: _ => finish atEnd .openRaw (scanRaw cs)
  | '!' :: d :: _ =>
    if d = 'D' || d = 'd' then
      match upToMark doctypeEnds [] cs with
      | none => .error (.scan atEnd .openDoctype)
      | some (content, rest) =>
        if (content.take 8).map Char.toLower = "!doctype".toList then
          if (content.drop 8).all isSpace then
            .error (.namelessDoctype (atEnd - sizeOfChars rest))
          else .ok (.silent, rest)
        else .error (.scan (atEnd - sizeOfChars rest) .openDoctype)
    else .error (.scan start .unknownMark)
  | ['!'] => .error (.scan start .unknownMark)
  | '?' :: _ => finish atEnd .openInstruction (scanInstruction cs)
  | cs =>
    match upToTagEnd none cs with
    | none => .error (.scan atEnd .openTag)
    | some (content, rest) =>
      match content with
      | '/' :: name => .ok (.closing name, rest)
      | content =>
        match stripEndChars ['/'] content with
        | some content => .ok (.empty content, rest)
        | none => .ok (.opening content, rest)

/-! ## Every scan moves on -/

theorem upToTagEnd_length {q : Option Char} {cs content rest : List Char}
    (h : upToTagEnd q cs = some (content, rest)) : rest.length < cs.length := by
  induction cs generalizing q content with
  | nil => cases q <;> simp [upToTagEnd] at h
  | cons c cs ih =>
    cases q with
    | none =>
      unfold upToTagEnd at h
      split at h
      · simp only [Option.some.injEq, Prod.mk.injEq] at h
        simp [← h.2]
      · simp only [Option.map_eq_some_iff, Prod.mk.injEq, Prod.exists] at h
        obtain ⟨x, y, hxy, _, rfl⟩ := h
        have := ih hxy
        simp only [List.length_cons]
        omega
    | some q =>
      simp only [upToTagEnd, Option.map_eq_some_iff, Prod.mk.injEq, Prod.exists] at h
      obtain ⟨x, y, hxy, _, rfl⟩ := h
      have := ih hxy
      simp only [List.length_cons]
      omega

theorem upToMark_length {ends : List Char → Bool} {seen cs content rest : List Char}
    (h : upToMark ends seen cs = some (content, rest)) : rest.length < cs.length := by
  induction cs generalizing seen with
  | nil => simp [upToMark] at h
  | cons c cs ih =>
    unfold upToMark at h
    split at h
    · simp only [Option.some.injEq, Prod.mk.injEq] at h
      simp [← h.2]
    · have := ih h
      simp only [List.length_cons]
      omega

theorem scanComment_length {cs rest : List Char} {k : Except ScanFault TokenKind}
    (h : scanComment cs = some (k, rest)) : rest.length < cs.length := by
  simp only [scanComment, Option.map_eq_some_iff, Prod.exists] at h
  obtain ⟨content, rest', hm, hk⟩ := h
  have := upToMark_length hm
  split at hk <;> simp_all

theorem scanRaw_length {cs rest : List Char} {k : Except ScanFault TokenKind}
    (h : scanRaw cs = some (k, rest)) : rest.length < cs.length := by
  simp only [scanRaw, Option.map_eq_some_iff, Prod.exists] at h
  obtain ⟨content, rest', hm, hk⟩ := h
  have := upToMark_length hm
  split at hk <;> simp_all

theorem scanInstruction_length {cs rest : List Char} {k : Except ScanFault TokenKind}
    (h : scanInstruction cs = some (k, rest)) : rest.length < cs.length := by
  simp only [scanInstruction, Option.map_eq_some_iff, Prod.exists] at h
  obtain ⟨content, rest', hm, hk⟩ := h
  have := upToMark_length hm
  split at hk <;> simp_all

theorem eq_of_finish {atEnd : Nat} {unclosed : ScanFault} {k : TokenKind}
    {r : Option (Except ScanFault TokenKind × List Char)} {rest : List Char}
    (h : finish atEnd unclosed r = .ok (k, rest)) : r = some (.ok k, rest) := by
  unfold finish at h
  split at h
  · cases h
  · cases h
  · cases h
    rfl

theorem scanMarkup_length {start : Nat} {cs rest : List Char} {k : TokenKind}
    (h : scanMarkup start cs = .ok (k, rest)) : rest.length < cs.length := by
  unfold scanMarkup at h
  simp only at h
  split at h
  · exact scanComment_length (eq_of_finish h)
  · exact scanRaw_length (eq_of_finish h)
  · split at h
    · split at h
      · cases h
      · split at h
        · split at h
          · cases h
          · cases h
            exact upToMark_length ‹_›
        · cases h
    · cases h
  · cases h
  · exact scanInstruction_length (eq_of_finish h)
  · split at h
    · cases h
    · have := upToTagEnd_length ‹_›
      split at h
      · cases h
        assumption
      · split at h
        · cases h
          assumption
        · cases h
          assumption

/-! ## The tokens of a document -/

/-- The tokens of a document from byte `start` on, and the fault that ended the
scan if it did not reach the end. -/
def tokensFrom (start : Nat) (cs : List Char) : List Token × Option Fault :=
  match cs with
  | [] => ([], none)
  | c :: rest =>
    if c = '<' then
      match _h : scanMarkup (start + 1) rest with
      | .error f => ([], some f)
      | .ok (kind, after) =>
        let stop := start + 1 + sizeOfChars rest - sizeOfChars after
        let (ts, f) := tokensFrom stop after
        (⟨kind, stop⟩ :: ts, f)
    else
      let text := c :: rest.takeWhile (· ≠ '<')
      let stop := start + sizeOfChars text
      let (ts, f) := tokensFrom stop (rest.dropWhile (· ≠ '<'))
      (⟨.text text, stop⟩ :: ts, f)
termination_by cs.length
decreasing_by
  · exact Nat.lt_succ_of_lt (scanMarkup_length ‹scanMarkup (start + 1) rest = .ok (kind, after)›)
  · exact Nat.lt_succ_of_le (List.dropWhile_suffix _).length_le

/-- The tokens of a document.  A byte order mark in front is passed over. -/
def tokens (cs : List Char) : List Token × Option Fault :=
  match cs with
  | c :: rest => if c = '\uFEFF' then tokensFrom 0 rest else tokensFrom 0 (c :: rest)
  | [] => ([], none)

end ActionTree.Markup
