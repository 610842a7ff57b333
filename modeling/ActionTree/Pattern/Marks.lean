import ActionTree.Pattern.Form

/-!
# ActionTree.Pattern.Marks

Where forms occur in a text.

1. a form is read as a function on *marks*: given the places of a text where it may
   begin, the marks of the places where it may end;
2. a form occurs in a text if, begun anywhere, it ends somewhere.

Marks are a list with an entry for every place of the text, the one behind the last
character included.  Since every form is applied to all places at once, nothing is
ever tried twice.
-/

namespace ActionTree.Pattern

/-! ## Conditions -/

/-- Whether the character beside a place, if there is one, belongs to words. -/
def inWord (ascii : Bool) (c : Option Char) : Bool := c.any fun c => (wordSet ascii).has c.toNat

/-- Whether a condition holds between two characters. -/
def Look.holds (l : Look) (before after : Option Char) : Bool :=
  match l with
  | textStart => before.isNone
  | textEnd => after.isNone
  | lineStart returns =>
    before.isNone || before == some '\n' ||
      (returns && before == some '\r' && after != some '\n')
  | lineEnd returns =>
    if returns then
      after.isNone || after == some '\r' || (after == some '\n' && before != some '\r')
    else after.isNone || after == some '\n'
  | wordEdge ascii => inWord ascii before != inWord ascii after
  | noWordEdge ascii => inWord ascii before == inWord ascii after
  | wordStart ascii => !inWord ascii before && inWord ascii after
  | wordEnd ascii => inWord ascii before && !inWord ascii after
  | noWordBefore ascii => !inWord ascii before
  | noWordAfter ascii => !inWord ascii after

/-! ## Marks -/

/-- A mark for every place of a text. -/
abbrev Marks := List Bool

/-- The marks behind the characters that a test allows. -/
def markBehind (allowed : Char → Bool) (text : List Char) (m : Marks) : Marks :=
  false :: text.zipWith (fun c b => b && allowed c) m

/-- The marks at which a condition holds. -/
def markLook (l : Look) : (before : Option Char) → List Char → Marks → Marks
  | before, [], b :: _ => [b && l.holds before none]
  | before, c :: cs, b :: bs => (b && l.holds before (some c)) :: markLook l (some c) cs bs
  | _, _, [] => []

/-- The marks of either list. -/
def markEither (a b : Marks) : Marks := a.zipWith (fun x y => x || y) b

/-- What is marked after exactly so many steps; the steps end early when they change
nothing any more. -/
def stepsExactly (step : Marks → Marks) : (count : Nat) → Marks → Marks
  | 0, m => m
  | count + 1, m =>
    let next := step m
    if next == m then m else stepsExactly step count next

/-- What is marked after so many steps or fewer. -/
def stepsUpTo (step : Marks → Marks) : (count : Nat) → Marks → Marks
  | 0, m => m
  | count + 1, m =>
    let next := markEither m (step m)
    if next == m then m else stepsUpTo step count next

/-- The marks where a form may end that may begin at given marks. -/
def Form.mark (text : List Char) : Form → Marks → Marks
  | empty, m => m
  | .text cs, m => cs.foldl (fun m c => markBehind (fun d => d == c) text m) m
  | one set, m => markBehind (fun c => set.has c.toNat) text m
  | look l, m => markLook l none text m
  | seq a b, m => b.mark text (a.mark text m)
  | alt a b, m => markEither (a.mark text m) (b.mark text m)
  | again least none _ f, m =>
    stepsUpTo (f.mark text) (text.length + 1) (stepsExactly (f.mark text) least m)
  | again least (some most) _ f, m =>
    stepsUpTo (f.mark text) (most - least) (stepsExactly (f.mark text) least m)
  | group _ f, m => f.mark text m

/-- Whether a form occurs in a text. -/
def Form.occursIn (f : Form) (text : List Char) : Bool :=
  (f.mark text (List.replicate (text.length + 1) true)).any id

end ActionTree.Pattern
