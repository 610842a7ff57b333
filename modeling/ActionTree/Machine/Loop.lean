import ActionTree.Machine.Data

/-!
# ActionTree.Machine.Loop

Loops, over counters, lists, stacks and rows.

1. a loop is rounds of its body, each with a position of its own; `Flow.ofRound`
   says which round is the last and how the loop then ends;
2. the form and the position are put back when a loop ends, however it ends;
3. an element is bound to the form that the loop began with, so no round sees what
   another left in the form;
4. a list is taken as it is when the loop begins.  A stack is looked at afresh in
   every round;
5. a counter stays within 64 bits.  A loop ends where the next counter would not be
   before the bound, and where 64 bits would not hold it.

Only two loops have no number of rounds that is known in advance, the one with a
mere condition and the one over a stack.  Fuel bounds these.
-/

namespace ActionTree

open Text

namespace Run

/-! ## Rounds -/

/-- Rounds from a position on until one of them is the last. -/
def roundsWithin (round : Nat → Run (Option Flow)) : (fuel : Nat) → (position : Nat) → Run Flow
  | 0, _ => throw .outOfFuel
  | fuel + 1, position => do
    match ← round position with
    | some flow => return flow
    | none => roundsWithin round fuel (position + 1)

/-- A round for every element, and then `atEnd`; or fewer rounds if one of them is
the last. -/
def roundsOver {α : Type} (round : Nat → α → Run (Option Flow)) (atEnd : Run Flow) :
    List α → (position : Nat) → Run Flow
  | [], _ => atEnd
  | a :: as, position => do
    match ← round position a with
    | some flow => return flow
    | none => roundsOver round atEnd as (position + 1)

/-- Binds an element to the form that the loop began with. -/
def bindElement (saved : Snapshot) (element : Value) (field : Option String) (position : Nat) :
    Run Unit :=
  updateScope fun c => { (c.restore saved).bind element field with index := some position }

/-- The body of a loop as a round. -/
def bodyRound (exec : Node → Run Flow) (n : Node) : Run (Option Flow) := do
  let flow ← sequence exec n.children
  return flow.ofRound

end Run

/-! ## Counters -/

/-- A counter's way: where it starts, what it stays before, and its stride, which
is not zero. -/
structure Progression where
  start : Int
  bound : Int
  stride : Int

namespace Progression

/-- Whether a counter is before the bound, in the direction of the stride. -/
def isBefore (p : Progression) (counter : Int) : Bool :=
  (0 < p.stride && counter < p.bound) || (p.stride < 0 && p.bound < counter)

/-- The counter behind another one, if 64 bits hold it. -/
def next? (p : Progression) (counter : Int) : Option Int :=
  let next := counter + p.stride
  if fitsInt64 next then some next else none

/-- How far a counter is from the bound. -/
def distance (p : Progression) (counter : Int) : Nat :=
  (if 0 < p.stride then p.bound - counter else counter - p.bound).toNat

theorem distance_next? {p : Progression} {counter next : Int} (hbefore : p.isBefore counter = true)
    (hnext : p.next? counter = some next) : p.distance next < p.distance counter := by
  simp only [isBefore, Bool.or_eq_true, Bool.and_eq_true, decide_eq_true_eq] at hbefore
  simp only [next?] at hnext
  split at hnext
  · obtain rfl := Option.some.inj hnext
    simp only [distance]
    split <;> omega
  · contradiction

end Progression

/-- The bound of a counter that starts at `start`. -/
def Host.bound (h : Host) (n : Node) (start : Int) (c : Context) : Except Error Int :=
  match h.integer? n "to" c with
  | .error e => .error e
  | .ok (some bound) => .ok bound
  | .ok none =>
    match h.integer? n "count" c with
    | .error e => .error e
    | .ok count =>
      if fitsInt64 (start + count.getD 0) then .ok (start + count.getD 0)
      else .error (n.badAttribute "count" "overflows the counter")

/-- The way of the counter of a loop. -/
def Host.progression (h : Host) (n : Node) (c : Context) : Except Error Progression :=
  match h.integer? n "from" c with
  | .error e => .error e
  | .ok start =>
    match h.bound n (start.getD 0) c with
    | .error e => .error e
    | .ok bound =>
      match h.integer? n "step" c with
      | .error e => .error e
      | .ok stride =>
        if stride = some 0 then .error (n.badAttribute "step" "must not be zero")
        else .ok ⟨start.getD 0, bound, stride.getD 1⟩

namespace Run

/-- Binds a counter, if a field is named for it, and the position. -/
def bindCounter (counter : Int) (field : Option String) (position : Nat) : Run Unit :=
  updateScope fun c =>
    let c := match field with
      | some _ => c.bind (.int counter) field
      | none => c
    { c with index := some position }

/-- Rounds from a counter and a position on as long as the counter is before its
bound, or fewer if one of them is the last. -/
def roundsAlong (p : Progression) (round : Int → Nat → Run (Option Flow)) (counter : Int)
    (position : Nat) : Run Flow :=
  if _hbefore : p.isBefore counter then do
    match ← round counter position with
    | some flow => return flow
    | none =>
      match _hnext : p.next? counter with
      | none => return .next
      | some next => roundsAlong p round next (position + 1)
  else pure .next
termination_by p.distance counter
decreasing_by exact Progression.distance_next? _hbefore _hnext

/-- The loop over a counter. -/
def countedLoop (h : Host) (exec : Node → Run Flow) (n : Node) : Run Flow := do
  let p ← ask (h.progression n)
  restoring fun _ =>
    roundsAlong p (fun counter position => do
      bindCounter counter (n.name? "field") position
      bodyRound exec n) p.start 0

/-- The loop with a condition. -/
def conditionalLoop (fuel : Nat) (exec : Node → Run Flow) (n : Node) : Run Flow :=
  restoring fun _ =>
    roundsWithin (fun position => do
      if ← ask (n.condition "condition") then
        updateScope fun c => { c with index := some position }
        bodyRound exec n
      else return some .next) fuel 0

/-- A loop over a counter or with a condition. -/
def loop (h : Host) (fuel : Nat) (exec : Node → Run Flow) (n : Node) : Run Flow :=
  if n.hasAttr "to" || n.hasAttr "count" then countedLoop h exec n
  else if n.hasAttr "condition" then conditionalLoop fuel exec n
  else fail (n.badAttribute "condition" "a loop needs `to`, `count` or `condition`")

end Run

/-! ## Lists -/

/-- What a traversal goes by: the path of the list, its direction, the names that
are written back, and the list as it is. -/
structure Traversal where
  source : String
  reversed : Bool
  updates : List String
  items : List Value

/-- The list at a path; nothing and null are empty lists. -/
def listAt (n : Node) (source : String) (c : Context) : Except Error (List Value) :=
  match c.get source with
  | some (.list items) => .ok items
  | none | some .null => .ok []
  | some _ => .error (n.badAttribute "source" ("'" ++ source ++ "' is not a list"))

/-- What a traversal goes by. -/
def Host.traversal (h : Host) (n : Node) (c : Context) : Except Error Traversal :=
  match h.attr n "source" c with
  | .error e => .error e
  | .ok source =>
    match h.flag n "reversed" c with
    | .error e => .error e
    | .ok reversed =>
      match h.attr? n "update" c with
      | .error e => .error e
      | .ok names =>
        match listAt n source c with
        | .error e => .error e
        | .ok items =>
          .ok ⟨source, reversed, (pieces ',' (names.getD "")).filterMap trimmed?, items⟩

/-- The items with their positions, in the order in which they are visited. -/
def Traversal.visits (t : Traversal) : List (Nat × Value) :=
  let numbered := t.items.zipIdx.map fun (v, i) => (i, v)
  if t.reversed then numbered.reverse else numbered

/-- The list that visited items make, in the order of their positions. -/
def Traversal.listOf (t : Traversal) (visited : List (Nat × Value)) : List Value :=
  (if t.reversed then visited.reverse else visited).map Prod.snd

/-- The path in the form of a name that is written back. -/
def updatePath (field : Option String) (name : String) : String :=
  match field with
  | some f => Context.formPrefix ++ f ++ "." ++ name
  | none => Context.formPrefix ++ name

/-- An element with one name written back from the form. -/
def writeBackName (c : Context) (field : Option String) (element : Value) (name : String) :
    Value :=
  match c.get (updatePath field name) with
  | none => element
  | some updated =>
    match element with
    | .record es => .record (Record.insert es name updated)
    | v => if name = "value" then updated else v

/-- An element with names written back from the form. -/
def writeBack (c : Context) (field : Option String) (updates : List String) (element : Value) :
    Value :=
  updates.foldl (writeBackName c field) element

namespace Run

/-- Visits items in order until a round is the last or fails; with the end comes
the list of all items as the visits left them. -/
def visit (round : Nat → Value → Run (Flow × Value)) :
    List (Nat × Value) → Run (Except Failure Flow × List (Nat × Value))
  | [] => pure (.ok .next, [])
  | (position, v) :: rest => do
    match ← attempt (round position v) with
    | .error failure => return (.error failure, (position, v) :: rest)
    | .ok (flow, w) =>
      match flow.ofRound with
      | some last => return (.ok last, (position, w) :: rest)
      | none => do
        let (result, visited) ← visit round rest
        return (result, (position, w) :: visited)

/-- A value, or a failure that was held back. -/
def release {α : Type} : Except Failure α → Run α
  | .ok a => pure a
  | .error failure => throw failure

/-- One visit: an element is bound, the body runs, and the names that are written
back are taken from the form. -/
def visitRound (exec : Node → Run Flow) (n : Node) (updates : List String) (saved : Snapshot)
    (position : Nat) (element : Value) : Run (Flow × Value) := do
  bindElement saved element (n.name? "field") position
  let flow ← sequence exec n.children
  let c ← scope
  return (flow, writeBack c (n.name? "field") updates element)

/-- All visits of a traversal, the form and the position put back behind them. -/
def visitAll (exec : Node → Run Flow) (n : Node) (t : Traversal) :
    Run (Except Failure Flow × List (Nat × Value)) :=
  restoring fun saved => visit (visitRound exec n t.updates saved) t.visits

/-- The loop over a list. -/
def traverse (h : Host) (exec : Node → Run Flow) (n : Node) : Run Flow := do
  let t ← ask (h.traversal n)
  let (result, visited) ← visitAll exec n t
  if t.updates.isEmpty then release result
  else
    updateScope fun c => c.set t.source (.list (t.listOf visited))
    release result

/-! ## Stacks -/

/-- Takes the last item off the list in a slot; `none` if there is none. -/
def pop (source : String) : Run (Option Value) := do
  let c ← scope
  match c.slot? source with
  | some (.list items) =>
    match items.getLast? with
    | none => return none
    | some top => do
      updateScope fun c => (c.update? source fun _ => .list items.dropLast).getD c
      return some top
  | _ => return none

/-- The loop over a stack. -/
def stackLoop (h : Host) (fuel : Nat) (exec : Node → Run Flow) (n : Node) : Run Flow := do
  let source ← ask (h.attr n "source")
  if source = "form" || startsWith Context.formPrefix source then
    fail (n.badAttribute "source" "a stack must live outside the form record")
  else
    restoring fun saved =>
      roundsWithin (fun position => do
        match ← pop source with
        | none => return some .next
        | some element => do
          bindElement saved element (n.name? "field") position
          bodyRound exec n) fuel 0

/-! ## Rows -/

/-- The end of a cursor's rows. -/
def endOfRows (cursor : Cursor) : Run Flow :=
  match cursor.ending with
  | none => pure .next
  | some cause => fail (.service cause)

/-- The loop over the rows of a statement. -/
def reader (h : Host) (exec : Node → Run Flow) (n : Node) : Run Flow := do
  let statement ← ask (h.attrOrText n "sql")
  let cursor ← consult h fun db => db.cursor statement
  restoring fun saved =>
    roundsOver (fun position row => do
      bindElement saved (.record row) (n.name? "field") position
      bodyRound exec n) (endOfRows cursor) cursor.rows 0

end Run

end ActionTree
