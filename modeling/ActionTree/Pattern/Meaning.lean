import ActionTree.Pattern.Form
import ActionTree.Pattern.Syntax
import ActionTree.Unicode.Name

/-!
# ActionTree.Pattern.Meaning

The meaning of patterns: trees to forms.

1. flags say how what follows is meant, up to the end of the group they stand in;
2. where classes are those of ASCII, nothing may stand for a byte that is no
   character: neither a byte by its number, nor a dot, nor what is left outside a
   class;
3. a class is folded before it is turned round.

Faults are found from left to right, and those of the parts before those of the whole.
-/

namespace ActionTree.Pattern

/-! ## Flags -/

/-- How a pattern is meant. -/
structure Flags where
  ignoreCase : Bool := false
  lines : Bool := false
  dotAll : Bool := false
  swapGreed : Bool := false
  ascii : Bool := false
  returns : Bool := false

/-- Flags with one of them set or cleared. -/
def Flags.put (f : Flags) (change : Flag × Bool) : Flags :=
  let on := change.2
  match change.1 with
  | .ignoreCase => { f with ignoreCase := on }
  | .lines => { f with lines := on }
  | .dotAll => { f with dotAll := on }
  | .swapGreed => { f with swapGreed := on }
  | .unicode => { f with ascii := !on }
  | .returns => { f with returns := on }
  | .verbose => f

/-- Flags after a change. -/
def Flags.apply (f : Flags) (change : FlagChange) : Flags := change.foldl Flags.put f

/-! ## Classes -/

/-- A fault at a span. -/
def faultAt {α : Type} (cause : Cause) (span : Span) : Except Fault α := .error ⟨cause, span, none⟩

/-- A set with its letters in any case, if the flags say so. -/
def Flags.fold (f : Flags) (s : CharSet) : CharSet :=
  if f.ignoreCase then
    s.foldedBy (if f.ascii then Unicode.asciiFoldings else Unicode.foldings)
  else s

/-- A set that is finished: folded, and turned round if it is negated. -/
def Flags.finish (f : Flags) (span : Span) (negated : Bool) (s : CharSet) :
    Except Fault CharSet :=
  if f.ascii && negated then faultAt .notText span else .ok ((f.fold s).otherIf negated)

/-- A character in a class. -/
def Flags.classChar (f : Flags) (l : Literal) : Except Fault Nat :=
  if f.ascii && 128 ≤ l.char.toNat then
    faultAt (if l.asByte then .notText else .propertyForbidden) l.span
  else .ok l.char.toNat

/-- The characters of a class that a letter stands for. -/
def Shorthand.chars (ascii : Bool) : Shorthand → CharSet
  | digit => if ascii then .ofText "30-39" else Unicode.decimalDigits
  | blank => if ascii then .ofText "9-D 20" else Unicode.whiteSpace
  | word => wordSet ascii

/-- The characters that have a property. -/
def Property.chars (p : Property) : Except Unicode.NameFault CharSet :=
  match p.value with
  | none => Unicode.named p.name
  | some v => Unicode.withValue p.name v

/-- The cause of a fault in names. -/
def Cause.ofNames : Unicode.NameFault → Cause
  | .noProperty => .propertyUnknown
  | .noValue => .propertyValueUnknown

/-- Two sets combined. -/
def SetOp.apply : SetOp → CharSet → CharSet → CharSet
  | inter => CharSet.inter
  | diff => CharSet.diff
  | symmDiff => CharSet.symmDiff

mutual

/-- The characters of a class. -/
def ClassTree.chars (f : Flags) : ClassTree → Except Fault CharSet
  | empty _ => .ok .nothing
  | literal l => do
    let n ← f.classChar l
    return .range n n
  | range _ lo hi => do return .range (← f.classChar lo) (← f.classChar hi)
  | named span negated set => f.finish span negated set
  | property span negated p =>
    if f.ascii then faultAt .propertyForbidden span
    else
      match p.chars with
      | .ok s => f.finish span negated s
      | .error e => faultAt (.ofNames e) span
  | shorthand span negated s =>
    if f.ascii && negated then faultAt .notText span
    else .ok ((s.chars f.ascii).otherIf negated)
  | union _ items => charsOf f .nothing items
  | combined _ op left right => do
    let left ← left.chars f
    let right ← right.chars f
    return op.apply (f.fold left) (f.fold right)
  | bracketed span negated set => do f.finish span negated (← set.chars f)

/-- The characters of some parts of a class, and those of a set. -/
def ClassTree.charsOf (f : Flags) (s : CharSet) : List ClassTree → Except Fault CharSet
  | [] => .ok s
  | c :: cs => do
    let t ← c.chars f
    charsOf f (s.union t) cs

end

/-! ## Parts -/

/-- The form of a character. -/
def Literal.form (f : Flags) (l : Literal) : Except Fault Form :=
  if f.ascii && l.asByte && 128 ≤ l.char.toNat then faultAt .notText l.span
  else .ok (.ofSet (f.fold (.single l.char)))

/-- The form of a dot. -/
def dotForm (f : Flags) (span : Span) : Except Fault Form :=
  if f.ascii then faultAt .notText span
  else if f.dotAll then .ok (.one .all)
  else if f.returns then .ok (.one (CharSet.ofText "A D").other)
  else .ok (.one (CharSet.single '\n').other)

/-- The condition that an anchor stands for. -/
def Anchor.look (f : Flags) : Anchor → Look
  | lineStart => if f.lines then .lineStart f.returns else .textStart
  | lineEnd => if f.lines then .lineEnd f.returns else .textEnd
  | textStart => .textStart
  | textEnd => .textEnd
  | wordEdge => .wordEdge f.ascii
  | noWordEdge => .noWordEdge f.ascii
  | wordStart => .wordStart f.ascii
  | wordEnd => .wordEnd f.ascii
  | wordStartHalf => .noWordBefore f.ascii
  | wordEndHalf => .noWordAfter f.ascii

/-! ## Trees -/

mutual

/-- The form of a tree, and the flags for what follows. -/
def Tree.form (f : Flags) : Tree → Except Fault (Form × Flags)
  | empty _ => .ok (.empty, f)
  | flags _ change => .ok (.empty, f.apply change)
  | literal l => do return (← l.form f, f)
  | dot span => do return (← dotForm f span, f)
  | anchor _ a => .ok (.look (a.look f), f)
  | charClass c => do return (.ofSet (← c.chars f), f)
  | again _ least most greedy t => do
    let (g, _) ← t.form f
    return (.repeated least most (greedy != f.swapGreed) g, f)
  | group _ (.numbered index) t => do
    let (g, _) ← t.form f
    return (.group index g, f)
  | group _ (.plain change) t => do
    let (g, _) ← t.form (f.apply change)
    return (g, f)
  | sequence _ items => do
    let (gs, f) ← formsOf f [] items
    return (.sequence gs, f)
  | choice _ items => do
    let (gs, f) ← formsOf f [] items
    return (.oneOf gs, f)

/-- The forms of trees behind those in `done`, of which the last one comes first, and the
flags for what follows. -/
def Tree.formsOf (f : Flags) (done : List Form) : List Tree → Except Fault (List Form × Flags)
  | [] => .ok (done.reverse, f)
  | t :: ts => do
    let (g, f) ← t.form f
    formsOf f (g :: done) ts

end

end ActionTree.Pattern
