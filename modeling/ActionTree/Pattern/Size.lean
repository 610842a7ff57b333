import ActionTree.Pattern.ByteRanges
import ActionTree.Pattern.Form
import Std.Data.HashMap

/-!
# ActionTree.Pattern.Size

How much room a pattern needs.

1. a pattern is searched for by two machines, which read bytes: one finds where a
   match ends, and the other goes backwards to where it begins;
2. a machine is a network of states.  Each state takes the same room, a *fork* takes
   more for each branch, and a *table* more for each range of bytes;
3. a form that is repeated so many times is in the machine as many times.  Characters
   of a set share the states that their encodings end with, as far as a bounded memory
   of states allows;
4. a pattern whose machines would take more than `roomLimit` is refused.

Machines are not built here.  `build` goes through the same steps and only counts, and
since room is never given back, it can stop at the limit.
-/

namespace ActionTree.Pattern

/-! ## Room -/

/-- How many states a machine has, and the bytes they take for branches and ranges. -/
structure Room where
  states : Nat := 0
  extra : Nat := 0
deriving DecidableEq, Repr

/-- The bytes that a machine takes. -/
def Room.bytes (r : Room) : Nat := 32 * r.states + r.extra

/-- The bytes that a machine may take. -/
def roomLimit : Nat := 10485760

/-- The bytes of a branch of a fork. -/
def branchBytes : Nat := 4

/-- The bytes of a range of a table. -/
def rangeBytes : Nat := 8

/-- A step of building; it fails at the limit. -/
abbrev Build (α : Type) := StateT Room Option α

/-- Takes more room. -/
def take (states extra : Nat) : Build Unit := fun r =>
  let r : Room := ⟨r.states + states, r.extra + extra⟩
  if r.bytes ≤ roomLimit then some ((), r) else none

/-- A new state, by its number. -/
def newState (extra : Nat) : Build Nat := do
  let r ← get
  take 1 extra
  return r.states

/-- Goes on behind a part of a machine.  If the part ends in a fork, this is one more
branch. -/
def goOn (endsInFork : Bool) : Build Unit :=
  if endsInFork then take 0 branchBytes else pure ()

/-! ## Memory -/

/-- A memory of states by what they do.  It has so many places, and what comes to a place
drives out what was there. -/
structure Memory (α : Type) where
  places : Nat
  entries : Std.HashMap Nat (α × Nat) := {}

/-- A number mixed into a hash. -/
def mix (hash : UInt64) (n : Nat) : UInt64 := (hash ^^^ n.toUInt64) * 1099511628211

/-- The hash of some numbers. -/
def hashOf (ns : List Nat) : UInt64 := ns.foldl mix 14695981039346656037

/-- The place for what has a hash. -/
def Memory.place {α : Type} (m : Memory α) (hash : UInt64) : Nat := hash.toNat % m.places

/-- The state that does something, if it is remembered. -/
def Memory.get? {α : Type} [BEq α] (m : Memory α) (hash : UInt64) (a : α) : Option Nat :=
  match m.entries[m.place hash]? with
  | some (b, state) => if a == b then some state else none
  | none => none

/-- Remembers the state that does something. -/
def Memory.put {α : Type} (m : Memory α) (hash : UInt64) (a : α) (state : Nat) : Memory α :=
  { m with entries := m.entries.insert (m.place hash) (a, state) }

/-! ## Sets of characters, forwards -/

/-- A range of bytes and the state that it leads to. -/
structure Arrow where
  bytes : ByteRange
  target : Nat
deriving BEq

/-- A state that is not finished: its arrows, the last one first, and the range of the
arrow whose target is not known yet. -/
structure Draft where
  arrows : List Arrow := []
  last : Option ByteRange := none

/-- A draft whose last arrow leads to a state. -/
def Draft.close (d : Draft) (target : Nat) : Draft :=
  match d.last with
  | some bytes => ⟨⟨bytes, target⟩ :: d.arrows, none⟩
  | none => d

/-- A step of building that remembers tables. -/
abbrev Sharing (α : Type) := StateT (Memory (List Arrow)) Build α

/-- The table with some arrows, a new one if none is remembered. -/
def shareTable (arrows : List Arrow) : Sharing Nat := do
  let hash := hashOf (arrows.reverse.flatMap fun a =>
    [a.bytes.1.toNat, a.bytes.2.toNat, a.target])
  match (← get).get? hash arrows with
  | some state => return state
  | none => do
    let state ← newState (rangeBytes * arrows.length)
    modify fun m => m.put hash arrows state
    return state

/-- Finishes drafts, each of which is the target of the one before; `target` is where the
last one leads. -/
def finishDrafts (target : Nat) : List Draft → Sharing Nat
  | [] => return target
  | d :: ds => do
    let next ← finishDrafts target ds
    shareTable (d.close next).arrows

/-- Adds a row of byte ranges to drafts.  What the row has in common with the row before
it stays open, and what no further row can have is finished. -/
def addRow (target : Nat) : List Draft → List ByteRange → Sharing (List Draft)
  | d :: ds, r :: rs => do
    if d.last == some r && !rs.isEmpty then return d :: (← addRow target ds rs)
    else
      let next ← finishDrafts target ds
      return { d.close next with last := some r } :: rs.map fun r => { last := some r }
  | _, rs => return rs.map fun r => { last := some r }

/-- Adds rows to drafts. -/
def addRows (target : Nat) : List Draft → List (List ByteRange) → Sharing (List Draft)
  | ds, [] => return ds
  | ds, row :: rows => do addRows target (← addRow target ds row) rows

/-- The states of a set whose characters share what they end with. -/
def buildRows (rows : List (List ByteRange)) : Build Unit := do
  let target ← newState 0
  let share : Sharing Unit := do
    let ds ← addRows target [{}] rows
    discard (finishDrafts target ds)
  discard (share.run { places := 10000 })

/-! ## Sets of characters, backwards -/

/-- The states of a row read backwards, from a state on. -/
def buildBack : (state : Nat) → List ByteRange →
    StateT (Memory (Nat × ByteRange)) Build Unit
  | _, [] => take 0 branchBytes
  | state, r :: rs => do
    let hash := hashOf [state, r.1.toNat, r.2.toNat]
    match (← get).get? hash (state, r) with
    | some next => buildBack next rs
    | none => do
      let next ← newState 0
      modify fun m => m.put hash (state, r) next
      buildBack next rs

/-- The states of rows read backwards, all from one state on. -/
def buildBackRows (state : Nat) : List (List ByteRange) →
    StateT (Memory (Nat × ByteRange)) Build Unit
  | [] => return ()
  | row :: rows => do
    buildBack state row
    buildBackRows state rows

/-- The states of a set whose characters share what they begin with. -/
def buildRowsBack (rows : List (List ByteRange)) : Build Unit := do
  take 1 0
  let target ← newState 0
  discard ((buildBackRows target rows).run { places := 1000 })

/-- The states of a set. -/
def buildSet (backwards : Bool) (s : CharSet) : Build Unit :=
  if s.isAscii then take 2 (rangeBytes * s.ranges.length)
  else if backwards then buildRowsBack (byteRows s)
  else buildRows (byteRows s)

/-! ## Words -/

/-- The words that go on with a byte: for each byte the rests of the words. -/
abbrev Chunk := List (UInt8 × List (List UInt8))

/-- A chunk with one more word. -/
def Chunk.add (b : UInt8) (rest : List UInt8) : Chunk → Chunk
  | [] => [(b, [rest])]
  | (c, rests) :: chunk =>
    if b = c then (c, rests ++ [rest]) :: chunk else (c, rests) :: Chunk.add b rest chunk

/-- Words in their order, cut into chunks where a word ends; the last chunk comes
first. -/
def addWord (chunks : List Chunk) (word : List UInt8) : List Chunk :=
  match chunks, word with
  | c :: cs, b :: rest => c.add b rest :: cs
  | cs, [] => if cs.length ≥ 2 && cs.all List.isEmpty then cs else [] :: cs
  | [], b :: rest => [Chunk.add b rest []]

/-- The room for a choice between words that have come to the same state. -/
def roomOfWords : (fuel : Nat) → List (List UInt8) → Room
  | 0, _ => {}
  | fuel + 1, words =>
    let chunks := words.foldl addWord [[]]
    let filled := chunks.filter fun c => !c.isEmpty
    let tables := filled.foldl
      (fun n c => n + if c.length = 1 then 0 else rangeBytes * c.length) 0
    let here : Room :=
      ⟨1 + filled.length, tables + branchBytes * (filled.length + chunks.length - 1)⟩
    let rests := (filled.flatten.map Prod.snd).filter fun ws => ws.any fun w => !w.isEmpty
    rests.foldl (fun r ws =>
      let t := roomOfWords fuel ws
      ⟨r.states + t.states, r.extra + t.extra⟩) here

/-- The texts of a choice that is between texts only. -/
def Form.words? : Form → Option (List (List Char))
  | text cs => some [cs]
  | alt (text cs) b => b.words?.map (cs :: ·)
  | _ => none

/-- The bytes of a text. -/
def bytesOfText (cs : List Char) : List UInt8 := cs.flatMap String.utf8EncodeChar

/-- The states of a choice between words. -/
def buildWords (backwards : Bool) (words : List (List Char)) : Build Unit := do
  let words := words.map fun cs =>
    if backwards then (bytesOfText cs).reverse else bytesOfText cs
  let r := roomOfWords (words.foldl (fun n w => max n w.length) 0 + 1) words
  take (r.states + 1) r.extra

/-! ## Forms -/

/-- A form so many times more; `endsInFork` tells how what is in front ends. -/
def buildTimes (f : Build Bool) : (count : Nat) → (endsInFork : Bool) → Build Bool
  | 0, endsInFork => return endsInFork
  | count + 1, endsInFork => do
    let e ← f
    goOn endsInFork
    buildTimes f count e

/-- A form exactly so many times. -/
def buildExactly (f : Build Bool) : (count : Nat) → Build Bool
  | 0 => do
    take 1 0
    return false
  | count + 1 => do buildTimes f count (← f)

/-- A form so many times or fewer. -/
def buildUpTo (f : Build Bool) : (count : Nat) → (endsInFork : Bool) → Build Bool
  | 0, endsInFork => do
    goOn endsInFork
    return false
  | count + 1, endsInFork => do
    take 1 0
    let e ← f
    goOn endsInFork
    take 0 (2 * branchBytes)
    buildUpTo f count e

/-- A form so many times or more; `takes` tells that it always takes a byte. -/
def buildAtLeast (f : Build Bool) (takes : Bool) : (least : Nat) → Build Bool
  | 0 => do
    if takes then
      take 1 0
      goOn (← f)
      take 0 branchBytes
      return true
    else
      let e ← f
      take 3 (4 * branchBytes)
      goOn e
      return false
  | 1 => do
    let e ← f
    take 1 branchBytes
    goOn e
    return true
  | least + 2 => do
    let d ← buildExactly f (least + 1)
    let e ← f
    take 1 branchBytes
    goOn d
    goOn e
    return true

/-- A repetition of a form. -/
def buildAgain (f : Build Bool) (takes : Bool) (least : Nat) (most : Option Nat) : Build Bool :=
  match least, most with
  | 0, some 1 => do
    take 1 0
    let e ← f
    take 1 (2 * branchBytes)
    goOn e
    return false
  | least, none => buildAtLeast f takes least
  | least, some most => do
    let d ← buildExactly f least
    if least = most then return d
    else
      take 1 0
      buildUpTo f (most - least) d

/-- A fork to two branches that end in one state. -/
def buildFork (d e : Bool) : Build Unit := do
  take 2 (2 * branchBytes)
  goOn d
  goOn e

/-- A part of a machine, which may be one more branch of a fork. -/
def asBranch (branch : Bool) (part : Build Bool) : Build Bool := do
  let e ← part
  if branch then
    take 0 branchBytes
    goOn e
    return false
  else return e

/-- The states of a form, and whether they end in a fork.  With `branch` the form is one
more branch of a fork, or several. -/
def Form.build (backwards : Bool) (branch : Bool) : Form → Build Bool
  | empty | look _ => asBranch branch do
    take 1 0
    return false
  | text cs => asBranch branch do
    take (textBytes cs) 0
    return false
  | one s => asBranch branch do
    buildSet backwards s
    return false
  | seq a b => asBranch branch do
    if backwards then
      let e ← b.build backwards false
      let d ← a.build backwards false
      goOn e
      return d
    else
      let d ← a.build backwards false
      let e ← b.build backwards false
      goOn d
      return e
  | alt a (alt b c) => do
    if branch then
      discard (a.build backwards true)
      discard (b.build backwards true)
      discard (c.build backwards true)
    else
      match (alt a (alt b c)).words? with
      | some words => buildWords backwards words
      | none => do
        let d ← a.build backwards false
        let e ← b.build backwards false
        buildFork d e
        discard (c.build backwards true)
    return false
  | alt a b => do
    if branch then
      discard (a.build backwards true)
      discard (b.build backwards true)
    else
      match (alt a b).words? with
      | some words => buildWords backwards words
      | none => do
        let d ← a.build backwards false
        let e ← b.build backwards false
        buildFork d e
    return false
  | again least most _ f => asBranch branch do
    buildAgain (f.build backwards false) (f.least?.any fun n => n != 0) least most
  | group _ f => asBranch branch do
    if backwards then f.build backwards false
    else
      take 1 0
      let e ← f.build backwards false
      take 1 0
      goOn e
      return false

/-- The states of a whole machine.  It may begin anywhere, unless what it looks for begins
where the text begins. -/
def Form.buildWhole (backwards : Bool) (f : Form) : Build Unit := do
  if if backwards then f.endsWith .textEnd else f.beginsWith .textStart then take 1 0
  else take 3 (rangeBytes + 2 * branchBytes)
  take (if backwards then 0 else 1) 0
  let e ← f.build backwards false
  goOn e
  take (if backwards then 1 else 2) 0

/-! ## The limit -/

/-- A bound on the bytes of a form in either machine. -/
def Form.bound : Form → Nat
  | empty | look _ => 32
  | text cs => 80 * textBytes cs + 64
  | one s => 200 + if s.isAscii then 8 * s.ranges.length else 200 * (byteRows s).length
  | seq a b => a.bound + b.bound + 8
  | alt a b => a.bound + b.bound + 96
  | again least most _ f => (f.bound + 48) * (max least (most.getD 0) + 1) + 200
  | group _ f => f.bound + 72

/-- Whether the machines of a form stay within the limit. -/
def Form.hasRoom (f : Form) : Bool :=
  f.bound + 400 ≤ roomLimit ||
    ((f.buildWhole false).run {}).isSome && ((f.buildWhole true).run {}).isSome

end ActionTree.Pattern
