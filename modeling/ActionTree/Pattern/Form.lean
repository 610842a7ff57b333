import ActionTree.Unicode.Derived

/-!
# ActionTree.Pattern.Form

What a pattern stands for.

1. a form is a text, a character of a set, a condition on a place, or made of forms:
   one after the other, one or the other, one again and again;
2. `sequence`, `oneOf`, `ofSet` and `repeated` build forms and leave out what makes no
   difference: texts side by side are one text, a choice between characters is a set,
   and what all branches of a choice begin with stands in front of the choice;
3. lengths are counted in bytes of UTF-8.

Forms one after the other hang to the right, and so do the branches of a choice.
-/

namespace ActionTree.Pattern

/-! ## Forms -/

/-- A condition on a place.  Words are those of ASCII or those of all scripts, and
carriage returns end lines or do not. -/
inductive Look where
  | textStart
  | textEnd
  | lineStart (returns : Bool)
  | lineEnd (returns : Bool)
  | wordEdge (ascii : Bool)
  | noWordEdge (ascii : Bool)
  | wordStart (ascii : Bool)
  | wordEnd (ascii : Bool)
  /-- No character of a word is in front. -/
  | noWordBefore (ascii : Bool)
  /-- No character of a word is behind. -/
  | noWordAfter (ascii : Bool)
deriving DecidableEq, Repr

/-- What a pattern stands for. -/
inductive Form where
  | empty
  | text (cs : List Char)
  | one (set : CharSet)
  | look (l : Look)
  | seq (a b : Form)
  | alt (a b : Form)
  /-- So many times or more, up to a limit if there is one. -/
  | again (least : Nat) (most : Option Nat) (greedy : Bool) (f : Form)
  /-- A group that counts. -/
  | group (index : Nat) (f : Form)
deriving DecidableEq, Repr

/-- The characters of words, in ASCII or in all scripts. -/
def wordSet (ascii : Bool) : CharSet :=
  if ascii then .ofText "30-39 41-5A 5F 61-7A" else Unicode.word

namespace Form

/-! ## Lengths -/

/-- How many bytes the character of a number takes. -/
def bytesOf (n : Nat) : Nat :=
  if n < 0x80 then 1 else if n < 0x800 then 2 else if n < 0x10000 then 3 else 4

/-- How many bytes a text takes. -/
def textBytes (cs : List Char) : Nat := cs.foldl (fun n c => n + bytesOf c.toNat) 0

/-- The sum of two lengths that are known. -/
def plus (a b : Option Nat) : Option Nat := a.bind fun m => b.map fun n => m + n

/-- How many bytes a form takes at least, unless it never matches. -/
def least? : Form → Option Nat
  | empty | look _ => some 0
  | text cs => some (textBytes cs)
  | one s => s.ranges.head?.map fun r => bytesOf r.1
  | seq a b => plus a.least? b.least?
  | alt a b => a.least?.bind fun m => b.least?.map fun n => min m n
  | again least _ _ f => f.least?.map fun n => least * n
  | group _ f => f.least?

/-- How many bytes a form takes at most, if there is a limit. -/
def most? : Form → Option Nat
  | empty | look _ => some 0
  | text cs => some (textBytes cs)
  | one s => s.ranges.getLast?.map fun r => bytesOf r.2
  | seq a b => plus a.most? b.most?
  | alt a b => a.most?.bind fun m => b.most?.map fun n => max m n
  | again _ most _ f => most.bind fun m => f.most?.map fun n => m * n
  | group _ f => f.most?

/-- Whether a form takes nothing. -/
def takesNothing (f : Form) : Bool := f.most? == some 0

/-! ## Building forms -/

/-- A character of a set. -/
def ofSet (s : CharSet) : Form :=
  match s.only? with
  | some c => text [c]
  | none => one s

/-- The forms that stand one after the other. -/
def parts : Form → List Form
  | empty => []
  | seq a b => a :: b.parts
  | f => [f]

/-- The branches of a choice. -/
def branches : Form → List Form
  | alt a b => a :: b.branches
  | f => [f]

/-- A form in front of others, texts side by side being one text. -/
def prepend (f : Form) (fs : List Form) : List Form :=
  match f, fs with
  | text a, text b :: rest => text (a ++ b) :: rest
  | f, fs => f :: fs

/-- Forms one after the other. -/
def sequence (fs : List Form) : Form :=
  match ((fs.flatMap parts).foldr prepend []).reverse with
  | [] => empty
  | last :: front => front.foldl (fun f g => seq g f) last

/-- A form so many times or more, up to a limit if there is one.  What takes nothing
need not be taken twice. -/
def repeated (least : Nat) (most : Option Nat) (greedy : Bool) (f : Form) : Form :=
  let (least, most) :=
    if f.takesNothing then (min least 1, some (most.elim 1 fun n => min n 1)) else (least, most)
  if most = some 0 then empty
  else if least = 1 ∧ most = some 1 then f
  else again least most greedy f

/-! ## Choices -/

/-- The set of the characters that a form stands for, if it is a single character. -/
def char? : Form → Option CharSet
  | text [c] => some (.single c)
  | _ => none

/-- The set that a form stands for, if it is a set. -/
def set? : Form → Option CharSet
  | one s => some s
  | _ => none

/-- The forms one after the other, if there are at least two. -/
def rowOf : Form → List Form
  | seq a b => a :: b.parts
  | _ => []

/-- What two rows begin with. -/
def commonFront : List Form → List Form → List Form
  | f :: fs, g :: gs => if f = g then f :: commonFront fs gs else []
  | _, _ => []

/-- What all rows begin with. -/
def commonFrontOf : List (List Form) → List Form
  | [] => []
  | fs :: rest => rest.foldl commonFront fs

/-- How many forms a form is made of. -/
def count : Form → Nat
  | seq a b | alt a b => a.count + b.count + 1
  | again _ _ _ f | group _ f => f.count + 1
  | _ => 1

/-- A choice with the forms that are left as they are. -/
def choice (fs : List Form) : Form :=
  match fs.reverse with
  | [] => one .nothing
  | last :: front => front.foldl (fun f g => alt g f) last

/-- A choice between forms; `fuel` bounds how often a common front is found. -/
def oneOfWith : (fuel : Nat) → List Form → Form
  | fuel, fs =>
    match fs.flatMap branches with
    | [] => one .nothing
    | [f] => f
    | fs =>
      match fs.mapM char?, fs.mapM set?, fuel, commonFrontOf (fs.map rowOf) with
      | some chars, _, _, _ => ofSet (.unions chars)
      | none, some sets, _, _ => ofSet (.unions sets)
      | none, none, fuel + 1, f :: front =>
        let suffix (g : Form) : Form := sequence (g.rowOf.drop (front.length + 1))
        sequence (f :: front ++ [oneOfWith fuel (fs.map suffix)])
      | _, _, _, _ => choice fs

/-- A choice between forms. -/
def oneOf (fs : List Form) : Form := oneOfWith (fs.foldl (fun n f => n + f.count) 0) fs

/-! ## Ends of the text -/

/-- Whether a form begins with a condition, whatever it matches. -/
def beginsWith (l : Look) : Form → Bool
  | look k => k = l
  | seq a b => a.beginsWith l || (a.takesNothing && b.beginsWith l)
  | alt a b => a.beginsWith l && b.beginsWith l
  | again least _ _ f => least != 0 && f.beginsWith l
  | group _ f => f.beginsWith l
  | _ => false

/-- Whether a form ends with a condition, whatever it matches. -/
def endsWith (l : Look) : Form → Bool
  | look k => k = l
  | seq a b => b.endsWith l || (b.takesNothing && a.endsWith l)
  | alt a b => a.endsWith l && b.endsWith l
  | again least _ _ f => least != 0 && f.endsWith l
  | group _ f => f.endsWith l
  | _ => false

end Form

end ActionTree.Pattern
