import ActionTree.Error
import ActionTree.Expr.Meaning

/-!
# ActionTree.Proofs.Substitution

Field data never becomes syntax.

A scope is read while a condition is cut into tokens, so nothing in the definition
of `Expr.value` keeps what a field holds apart from what the program says.  It is
kept apart nevertheless:

1. a condition can be read without a scope, as a tree with references in its
   leaves (`asTree`);
2. reading is *natural*: a map that takes the parts of one reading to the parts of
   another takes what the one makes of a condition to what the other makes of it;
3. giving every leaf its value in a scope is such a map.

So the scope decides what the leaves hold and nothing else.
-/

namespace ActionTree.Expr

open Text

/-! ## Trees -/

/-- An operand before any field is looked up. -/
inductive Leaf where
  | constant (v : Value)
  | reference (name : String)
  | splice (pieces : List Piece)
deriving Repr

/-- The tree of a condition. -/
inductive Tree where
  | leaf (l : Leaf)
  | not (t : Tree)
  | and (a b : Tree)
  | or (a b : Tree)
  | compare (op : Comparison) (a b : Tree)
deriving Repr

/-- The pieces of a text that is spliced.  A reference ends at the first closing
brace behind its opening one. -/
def splicePieces (cs : List Char) : List Piece :=
  match cs with
  | [] => []
  | c :: rest =>
    if c = '{' then
      match _h : cutChars '}' rest with
      | some (name, after) =>
        if isName name then .reference (String.ofList name) :: splicePieces after
        else Piece.push c (splicePieces rest)
      | none => Piece.push c (splicePieces rest)
    else Piece.push c (splicePieces rest)
termination_by cs.length
decreasing_by
  all_goals simp_wf
  have := cutChars_length ‹cutChars '}' rest = some (name, after)›
  omega

/-- Conditions read as trees. -/
def asTree : Reading Tree where
  constant v := .leaf (.constant v)
  reference name := .leaf (.reference name)
  splice cs := .leaf (.splice (splicePieces cs))
  not := .not
  and := .and
  or := .or
  compare := .compare

/-- What a leaf holds in a scope: the value of a lone reference, the text of a
splice, and the empty text for what is unknown. -/
def Leaf.value (c : Context) : Leaf → Value
  | constant v => v
  | reference name => (c.resolve name).getD (.text "")
  | splice ps => .text (Piece.join c ps)

/-- The value of a tree whose leaves hold values. -/
def Tree.value (leaves : Leaf → Value) : Tree → Value
  | leaf l => leaves l
  | not t => .boolean !(t.value leaves).truthy
  | and a b => .boolean ((a.value leaves).truthy && (b.value leaves).truthy)
  | or a b => .boolean ((a.value leaves).truthy || (b.value leaves).truthy)
  | compare op a b => .boolean (compareValues op (a.value leaves) (b.value leaves))

/-! ## Splices -/

theorem toList_join (c : Context) (ps : List Piece) :
    (Piece.join c ps).toList = ps.flatMap fun p => (p.text c).toList := by
  have hfold (out : String) : (ps.foldl (fun out p => out ++ p.text c) out).toList =
      out.toList ++ ps.flatMap fun p => (p.text c).toList := by
    induction ps generalizing out with
    | nil => simp
    | cons p ps ih => rw [List.foldl_cons, ih, String.toList_append, List.flatMap_cons,
        List.append_assoc]
  exact hfold ""

theorem toList_join_push (c : Context) (d : Char) (ps : List Piece) :
    (Piece.join c (Piece.push d ps)).toList = d :: (Piece.join c ps).toList := by
  rw [toList_join, toList_join]
  unfold Piece.push
  split <;> simp [Piece.text]

theorem toList_text_reference (c : Context) (name : List Char) :
    ((Piece.reference (String.ofList name)).text c).toList = fieldText c name := by
  simp only [Piece.text, fieldText]
  cases c.resolve (String.ofList name) <;> rfl

theorem splicePieces_reference {rest name after : List Char}
    (hcut : cutChars '}' rest = some (name, after)) (hname : isName name = true) :
    splicePieces ('{' :: rest) = .reference (String.ofList name) :: splicePieces after := by
  rw [splicePieces, if_pos rfl]
  split
  · next heq =>
    rw [hcut] at heq
    cases heq
    rw [if_pos hname]
  · next heq =>
    rw [hcut] at heq
    contradiction

theorem splicePieces_literal {d : Char} {rest : List Char}
    (hd : d = '{' → ∀ name after, cutChars '}' rest = some (name, after) → ¬ isName name = true) :
    splicePieces (d :: rest) = Piece.push d (splicePieces rest) := by
  rw [splicePieces]
  split
  · next hbrace =>
    split
    · next hcut => rw [if_neg (hd hbrace _ _ hcut)]
    · rfl
  · rfl

/-- Splicing looks at the scope only for the texts of the pieces. -/
theorem interpolate_eq (c : Context) (cs : List Char) :
    interpolate c cs = (Piece.join c (splicePieces cs)).toList := by
  fun_induction interpolate c cs with
  | case1 => simp [splicePieces, toList_join]
  | case2 rest name after hcut hname ih =>
    rw [splicePieces_reference hcut hname, toList_join, List.flatMap_cons, toList_text_reference,
      ih, toList_join]
  | case3 rest name after hcut hname ih =>
    rw [splicePieces_literal, toList_join_push, ih]
    intro _ name' after' hcut'
    cases hcut.symm.trans hcut'
    exact hname
  | case4 rest hcut ih =>
    rw [splicePieces_literal, toList_join_push, ih]
    intro _ name after hcut'
    rw [hcut] at hcut'
    contradiction
  | case5 d rest hd ih =>
    rw [splicePieces_literal (fun hbrace => absurd hbrace hd), toList_join_push, ih]

/-! ## Readings -/

variable {α β : Type}

/-- A token with another operand. -/
def Token.map (f : α → β) : Token α → Token β
  | openParen => openParen
  | closeParen => closeParen
  | not => not
  | and => and
  | or => or
  | compare op => compare op
  | operand a => operand (f a)

/-- What a token is, whatever it holds. -/
def Token.kind (t : Token α) : Token Unit := t.map fun _ => ()

theorem Token.kind_map (f : α → β) (t : Token α) : (t.map f).kind = t.kind := by
  cases t <;> rfl

/-- `f` takes the parts of one reading to the parts of another. -/
structure Reading.Maps (r : Reading α) (r' : Reading β) (f : α → β) : Prop where
  constant : ∀ v, f (r.constant v) = r'.constant v
  reference : ∀ name, f (r.reference name) = r'.reference name
  splice : ∀ cs, f (r.splice cs) = r'.splice cs
  not : ∀ a, f (r.not a) = r'.not (f a)
  and : ∀ a b, f (r.and a b) = r'.and (f a) (f b)
  or : ∀ a b, f (r.or a b) = r'.or (f a) (f b)
  compare : ∀ op a b, f (r.compare op a b) = r'.compare op (f a) (f b)

/-- A tree's value is what the condition is read as in the scope. -/
theorem maps_value (c : Context) : asTree.Maps (inScope c) (Tree.value (Leaf.value c)) where
  constant _ := rfl
  reference _ := rfl
  splice cs := by
    change Value.text _ = Value.text _
    rw [interpolate_eq, String.ofList_toList]
  not _ := rfl
  and _ _ := rfl
  or _ _ := rfl
  compare _ _ _ := rfl

/-- A token in front of tokens is mapped with them. -/
theorem map_cons (f : α → β) (x : Except Fault (List (Token α))) (t : Token α) :
    (x.map (t :: ·)).map (List.map (Token.map f)) =
      (x.map (List.map (Token.map f))).map (t.map f :: ·) := by
  cases x <;> rfl

/-- What was read, mapped, and the tokens behind it with it. -/
def Parsing.mapTo (f : α → β) (x : Parsing α) : Parsing β :=
  x.map fun (a, ts) => (f a, ts.map (Token.map f))

theorem Parsing.mapTo_ok (f : α → β) (a : α) (ts : List (Token α)) :
    Parsing.mapTo f (.ok (a, ts)) = .ok (f a, ts.map (Token.map f)) := rfl

/-- One level reads what another one reads, mapped. -/
structure Level.Maps (l : Level α) (l' : Level β) (f : α → β) : Prop where
  disjunction : ∀ ts, Parsing.mapTo f (l.disjunction ts) = l'.disjunction (ts.map (Token.map f))
  negation : ∀ ts, Parsing.mapTo f (l.negation ts) = l'.negation (ts.map (Token.map f))

section Naturality

variable {r : Reading α} {r' : Reading β} {f : α → β} (hm : r.Maps r' f)

include hm

theorem ofReferences_map (word : List Char) : f (r.ofReferences word) = r'.ofReferences word := by
  unfold Reading.ofReferences
  cases loneReference? word with
  | none => exact hm.splice word
  | some name => exact hm.reference _

theorem plainWord_map (word : List Char) : (r.plainWord word).map f = r'.plainWord word := by
  simp only [Reading.plainWord, apply_ite (Token.map f), ← hm.constant]
  rfl

theorem word_map (word : List Char) : (r.word word).map f = r'.word word := by
  unfold Reading.word
  split
  · rw [Token.map, ofReferences_map hm]
  · exact plainWord_map hm word

theorem tokensOf_map (cs : List Char) :
    (r.tokensOf cs).map (List.map (Token.map f)) = r'.tokensOf cs := by
  fun_induction r.tokensOf cs with
  | case2 c rest hblank ih =>
    rw [Reading.tokensOf.eq_def r', ih]
    simp only [hblank, if_true]
  | case5 c rest hblank hopen hclose hquote hread =>
    rw [Reading.tokensOf.eq_def r']
    dsimp only
    rw [if_neg hblank, if_neg hopen, if_neg hclose, if_pos hquote]
    split
    · rfl
    · next hread' => cases hread.symm.trans hread'
  | case6 c rest hblank hopen hclose hquote text after hread ih =>
    rw [Reading.tokensOf.eq_def r']
    dsimp only
    rw [if_neg hblank, if_neg hopen, if_neg hclose, if_pos hquote]
    split
    · next hread' => cases hread.symm.trans hread'
    · next hread' =>
      cases hread.symm.trans hread'
      rw [map_cons, ih, Token.map, hm.splice]
  | case19 c rest =>
    rw [Reading.tokensOf.eq_def r']
    simp_all [map_cons, word_map hm]
    rfl
  | _ =>
    rw [Reading.tokensOf.eq_def r']
    simp_all [map_cons]
    rfl

/-! ### Parsers -/

namespace Level

variable {below : Option (Level α)} {below' : Option (Level β)}
  (hb : Option.Rel (fun l l' => l.Maps l' f) below below')

include hb

theorem readNegated_map (ts : List (Token α)) :
    Parsing.mapTo f (readNegated r below ts) = readNegated r' below' (ts.map (Token.map f)) := by
  cases hb with
  | none => rfl
  | some hl =>
    rename_i l l'
    simp only [readNegated, ← hl.negation]
    rcases l.negation ts with e | ⟨a, rest⟩
    · rfl
    · simp only [Parsing.mapTo, Except.map, hm.not]

omit hm in
theorem readEnclosed_map (ts : List (Token α)) :
    Parsing.mapTo f (readEnclosed below ts) = readEnclosed below' (ts.map (Token.map f)) := by
  cases hb with
  | none => rfl
  | some hl =>
    rename_i l l'
    simp only [readEnclosed, ← hl.disjunction]
    rcases l.disjunction ts with e | ⟨a, _ | ⟨t, rest⟩⟩
    · rfl
    · rfl
    · cases t <;> rfl

theorem readOperand_map (ts : List (Token α)) :
    Parsing.mapTo f (readOperand r below ts) = readOperand r' below' (ts.map (Token.map f)) := by
  have hmissing : f r.missing = r'.missing := hm.constant _
  cases ts with
  | nil => simp only [readOperand, List.map_nil, Parsing.mapTo_ok, hmissing]
  | cons t ts =>
    cases t with
    | openParen => exact readEnclosed_map hb ts
    | operand a => rfl
    | not => exact readNegated_map hm hb ts
    | _ => simp only [readOperand, List.map_cons, Token.map, Parsing.mapTo_ok, hmissing]

theorem readComparison_map (ts : List (Token α)) :
    Parsing.mapTo f (readComparison r below ts) =
      readComparison r' below' (ts.map (Token.map f)) := by
  simp only [readComparison, ← readOperand_map hm hb]
  rcases readOperand r below ts with e | ⟨a, _ | ⟨t, rest⟩⟩
  · rfl
  · rfl
  · cases t with
    | compare op =>
      have hrest := readOperand_map hm hb rest
      simp only [Parsing.mapTo, Except.map, List.map_cons, Token.map] at hrest ⊢
      rw [← hrest]
      rcases readOperand r below rest with e | ⟨b, rest⟩
      · rfl
      · simp only [hm.compare]
    | _ => rfl

theorem readNegation_map (ts : List (Token α)) :
    Parsing.mapTo f (readNegation r below ts) = readNegation r' below' (ts.map (Token.map f)) := by
  cases ts with
  | nil => exact readComparison_map hm hb []
  | cons t ts =>
    cases t with
    | not => exact readNegated_map hm hb ts
    | openParen => exact readComparison_map hm hb (.openParen :: ts)
    | closeParen => exact readComparison_map hm hb (.closeParen :: ts)
    | and => exact readComparison_map hm hb (.and :: ts)
    | or => exact readComparison_map hm hb (.or :: ts)
    | compare op => exact readComparison_map hm hb (.compare op :: ts)
    | operand a => exact readComparison_map hm hb (.operand a :: ts)

theorem moreConjuncts_map (fuel : Nat) (a : α) (ts : List (Token α)) :
    Parsing.mapTo f (moreConjuncts r below fuel a ts) =
      moreConjuncts r' below' fuel (f a) (ts.map (Token.map f)) := by
  induction fuel generalizing a ts with
  | zero => rfl
  | succ fuel ih =>
    rcases ts with _ | ⟨t, ts⟩
    · rfl
    · cases t with
      | and =>
        simp only [moreConjuncts, List.map_cons, Token.map, ← readNegation_map hm hb]
        rcases readNegation r below ts with e | ⟨b, rest⟩
        · rfl
        · simp only [Parsing.mapTo_ok, ih, hm.and]
      | _ => rfl

theorem readConjunction_map (ts : List (Token α)) :
    Parsing.mapTo f (readConjunction r below ts) =
      readConjunction r' below' (ts.map (Token.map f)) := by
  simp only [readConjunction, ← readNegation_map hm hb]
  rcases readNegation r below ts with e | ⟨a, rest⟩
  · rfl
  · simp only [Parsing.mapTo_ok, moreConjuncts_map hm hb, List.length_map]

theorem moreDisjuncts_map (fuel : Nat) (a : α) (ts : List (Token α)) :
    Parsing.mapTo f (moreDisjuncts r below fuel a ts) =
      moreDisjuncts r' below' fuel (f a) (ts.map (Token.map f)) := by
  induction fuel generalizing a ts with
  | zero => rfl
  | succ fuel ih =>
    rcases ts with _ | ⟨t, ts⟩
    · rfl
    · cases t with
      | or =>
        simp only [moreDisjuncts, List.map_cons, Token.map, ← readConjunction_map hm hb]
        rcases readConjunction r below ts with e | ⟨b, rest⟩
        · rfl
        · simp only [Parsing.mapTo_ok, ih, hm.or]
      | _ => rfl

theorem readDisjunction_map (ts : List (Token α)) :
    Parsing.mapTo f (readDisjunction r below ts) =
      readDisjunction r' below' (ts.map (Token.map f)) := by
  simp only [readDisjunction, ← readConjunction_map hm hb]
  rcases readConjunction r below ts with e | ⟨a, rest⟩
  · rfl
  · simp only [Parsing.mapTo_ok, moreDisjuncts_map hm hb, List.length_map]

theorem above_maps : (above r below).Maps (above r' below') f :=
  ⟨readDisjunction_map hm hb, readNegation_map hm hb⟩

omit hb in
/-- All levels read alike, from the lowest upwards. -/
theorem ofDepth_maps (depth : Nat) : (ofDepth r depth).Maps (ofDepth r' depth) f := by
  induction depth with
  | zero => exact above_maps hm .none
  | succ depth ih => exact above_maps hm (.some ih)

end Level

theorem readTokens_map (ts : List (Token α)) :
    (r.readTokens ts).map (Option.map f) = r'.readTokens (ts.map (Token.map f)) := by
  cases ts with
  | nil => rfl
  | cons t ts =>
    simp only [Reading.readTokens, List.map_cons]
    rw [← List.map_cons, ← (Level.ofDepth_maps hm maxNesting).disjunction]
    rcases (Level.ofDepth r maxNesting).disjunction (t :: ts) with e | ⟨a, _ | _⟩ <;> rfl

/-- What a condition is read as is mapped by a map of what its parts are read as. -/
theorem read_map (source : String) : (r.read source).map (Option.map f) = r'.read source := by
  unfold Reading.read Reading.tokens
  rw [← tokensOf_map hm]
  rcases r.tokensOf source.toList with e | ts
  · rfl
  · exact readTokens_map hm ts

end Naturality

/-! ## Scopes -/

/-- What is reported of a condition that is not well formed, if it is not. -/
def complaint? (source : String) (c : Context) : Option String :=
  match value source c with
  | .ok _ => none
  | .error fault => some (Error.condition source fault).message

/-- The tokens of a condition in a scope are those of its tree, with the values of
the leaves for operands. -/
theorem tokens_inScope (source : String) (c : Context) :
    (inScope c).tokens source =
      (asTree.tokens source).map (List.map (Token.map (Tree.value (Leaf.value c)))) :=
  (tokensOf_map (maps_value c) source.toList).symm

/-- The value of a condition is the value of its tree; there is none for blanks. -/
theorem value_eq (source : String) (c : Context) :
    value source c = (asTree.read source).map fun t? =>
      (t?.map (Tree.value (Leaf.value c))).getD (.boolean false) := by
  rw [value, ← read_map (maps_value c)]
  cases asTree.read source <;> rfl

/-- **Field data never becomes syntax.**  Whether a condition is well formed, and
what is reported if it is not, what its tokens are, and its tree do not depend on
the scope; and its value is that of the tree with the value of every leaf put in
its place. -/
theorem data_never_becomes_syntax (source : String) :
    (∀ c d, complaint? source c = complaint? source d) ∧
    (∀ c d, ((inScope c).tokens source).map (List.map Token.kind) =
      ((inScope d).tokens source).map (List.map Token.kind)) ∧
    ∀ c, value source c = (asTree.read source).map fun t? =>
      (t?.map (Tree.value (Leaf.value c))).getD (.boolean false) := by
  refine ⟨fun c d => ?_, fun c d => ?_, value_eq source⟩
  · rw [complaint?, complaint?, value_eq, value_eq]
    cases asTree.read source <;> rfl
  · rw [tokens_inScope, tokens_inScope]
    rcases asTree.tokens source with e | ts
    · rfl
    · simp only [Except.map, List.map_map, Function.comp_def, Token.kind_map]

end ActionTree.Expr
