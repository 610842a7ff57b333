import ActionTree.Proofs.Cycle
import ActionTree.Proofs.LoopFold
import ActionTree.Proofs.Push

/-!
# ActionTree.Proofs.Worklist

A loop over a stack is a worklist.

1. a round takes the last item off the list that is at the source when it begins, and its
   body begins with the list without it (`StackRound.Takes`, `drain_succ`);
2. if the bodies only push, nothing that ever was on the stack is lost or bound twice: every
   arrival was bound, the latest that was waiting each time, or is still waiting in its place
   (`Ledger`, `Stacked.ledger`);
3. if every body pushes the children of what was bound, and the children of the children make
   a finite tree, the loop ends, and it has bound the nodes of the tree in depth first order,
   the last child first (`drain_forest`).

The list is looked up anew in every round, and what a body does to it in between is said of
the rounds themselves: where a round began, what it took, and where it has ended.
-/

namespace ActionTree

open Run Text

/-! ## The top of a stack -/

namespace Context

variable {c c' : Context} {source : String} {top : Value}

theorem popped?_eq_some (h : c.popped? source = some (top, c')) :
    ∃ items, c.slot? source = some (.list (items ++ [top])) ∧
      c.update? source (fun _ => .list items) = some c' := by
  unfold popped? at h
  split at h
  · next items hslot =>
    obtain ⟨last, hlast, hpair⟩ := Option.map_eq_some_iff.mp h
    obtain ⟨rfl, hc'⟩ := Prod.mk.inj hpair
    obtain ⟨d, hd, -⟩ := slot?_update? hslot fun _ => .list items.dropLast
    have hitems : items.dropLast ++ [last] = items := List.dropLast_append_getLast? last hlast
    rw [hd, Option.getD_some] at hc'
    exact ⟨items.dropLast, by rw [hslot, hitems], by rw [hd, hc']⟩
  · contradiction

/-- There is nothing to take off, if there is no list or an empty one. -/
theorem popped?_eq_none (h : c.popped? source = none) :
    ∀ items, c.slot? source = some (.list items) → items = [] := by
  intro items hslot
  rw [popped?, hslot] at h
  exact List.getLast?_eq_none_iff.mp (Option.map_eq_none_iff.mp h)

end Context

/-! ## Rounds -/

/-- A round of a loop over a stack: the state it was begun in, the item that it took, the
state that its body was begun in, and what that came to. -/
structure StackRound where
  before : State
  element : Value
  begun : State
  result : Except Failure Flow
  after : State

namespace StackRound

/-- The round is not the last one. -/
def GoesOn (r : StackRound) : Prop := ∃ flow, r.result = .ok flow ∧ flow.ofRound = none

/-- What a loop comes to whose last round this is. -/
def ending (r : StackRound) : Except Failure Flow :=
  r.result.map fun flow => flow.ofRound.getD .next

/-- A round is the last one of a loop that comes to `next` only if it was left. -/
theorem left_of_ending {r : StackRound} (hlast : ¬ r.GoesOn) (h : r.ending = .ok .next) :
    r.result = .ok .leave := by
  obtain ⟨before, element, begun, result, after⟩ := r
  cases result with
  | error failure => contradiction
  | ok flow =>
    cases flow with
    | next => exact absurd ⟨_, rfl, rfl⟩ hlast
    | skip => exact absurd ⟨_, rfl, rfl⟩ hlast
    | leave => rfl
    | stop => exact absurd (Except.ok.inj h) nofun
    | reply r => exact absurd (Except.ok.inj h) nofun

/-- A round at a position takes the last item off the list at the source, binds it to the form
of the loop, and its body sees the other items there, and all other fields as they were. -/
structure Takes (r : StackRound) (l : LoopBody) (source : String) (position : Nat)
    (items : List Value) : Prop where
  found : r.before.scope.slot? source = some (.list (items ++ [r.element]))
  left : r.begun.scope.slot? source = some (.list items)
  seen : source ≠ "index" → r.begun.scope.get source = some (.list items)
  form : r.begun.scope.form = boundForm l.form r.element l.field
  index : r.begun.scope.index = some position
  elsewhere : ∀ path, Context.inForm? path = none → r.before.scope.Diverge source path →
    r.begun.scope.slot? path = r.before.scope.slot? path
  rest : r.begun = { r.before with scope := r.begun.scope }
  ran : l.body r.begun = (r.result, r.after)

/-- The body has only pushed, and that is what. -/
def Pushes (r : StackRound) (source : String) (pushed : List Value) : Prop :=
  ∃ items, r.begun.scope.slot? source = some (.list items) ∧
    r.after.scope.slot? source = some (.list (items ++ pushed))

instance (r : StackRound) : Decidable r.GoesOn :=
  decidable_of_iff
    ((match r.result with
      | .ok flow => flow.ofRound.isNone
      | .error _ => false) = true) <| by
    rw [GoesOn]
    cases r.result with
    | ok flow => simp
    | error failure => simp

instance (r : StackRound) (source : String) (pushed : List Value) :
    Decidable (r.Pushes source pushed) :=
  decidable_of_iff
    ((match r.begun.scope.slot? source with
      | some (.list items) =>
        decide (r.after.scope.slot? source = some (.list (items ++ pushed)))
      | _ => false) = true) <| by
    rw [Pushes]
    split
    · next items hitems => simp [hitems]
    · next hno => exact iff_of_false nofun fun ⟨items, hitems, _⟩ => hno items hitems

end StackRound

/-- What a loop over a stack came to: its rounds, its result and its last state. -/
structure Drained where
  rounds : List StackRound
  result : Except Failure Flow
  state : State

/-- A round before others. -/
def Drained.behind (d : Drained) (r : StackRound) : Drained := { d with rounds := r :: d.rounds }

namespace LoopBody

/-- The rounds of a loop over a stack from a position on, as long as there is fuel. -/
def drain (l : LoopBody) (source : String) : (fuel : Nat) → (position : Nat) → State → Drained
  | 0, _, s => ⟨[], .error .outOfFuel, s⟩
  | fuel + 1, position, s =>
    match s.scope.popped? source with
    | none => ⟨[], .ok .next, s⟩
    | some (element, c) =>
      let begun := { s with scope := l.begin c element position }
      let (result, after) := l.body begun
      let r : StackRound := ⟨s, element, begun, result, after⟩
      match result with
      | .error failure => ⟨[r], .error failure, after⟩
      | .ok flow =>
        match flow.ofRound with
        | some last => ⟨[r], .ok last, after⟩
        | none => (l.drain source fuel (position + 1) after).behind r

variable {l : LoopBody} {source : String} (hform : source ≠ "form")
  (hsource : Context.inForm? source = none)

include hform hsource

/-- What is bound does not change what is on the stack. -/
theorem takes_of_popped {s : State} {element : Value} {c : Context}
    (hpop : s.scope.popped? source = some (element, c)) (position : Nat)
    {result : Except Failure Flow} {after : State}
    (hrun : l.body { s with scope := l.begin c element position } = (result, after)) :
    ∃ items, StackRound.Takes ⟨s, element, { s with scope := l.begin c element position }, result,
      after⟩ l source position items := by
  obtain ⟨items, hfound, hupdate⟩ := Context.popped?_eq_some hpop
  have hleft : (l.begin c element position).slot? source = some (.list items) := by
    obtain ⟨c', hc', hslot⟩ := Context.slot?_update? hfound fun _ => .list items
    obtain rfl : c = c' := Option.some.inj (hupdate.symm.trans hc')
    have hbegun : (l.begin c element position).slot? source = c.slot? source :=
      Context.slot?_eq_of_fields hsource rfl
    exact hbegun.trans hslot
  refine ⟨items, { found := hfound, left := hleft, seen := ?_, form := rfl, index := rfl,
                   elsewhere := ?_, rest := rfl, ran := hrun }⟩
  · intro hindex
    rw [Context.get_eq_slot? ⟨hform, fun h => absurd h hindex⟩, hleft]
  · intro path hpath hdiverge
    have hbegun : (l.begin c element position).slot? path = c.slot? path :=
      Context.slot?_eq_of_fields hpath rfl
    exact hbegun.trans (Context.slot?_update?_of_diverge hupdate hdiverge)

/-- There is nothing on the stack; or a round takes its top, and it is the last one, or the
rest of the rounds begins where it has ended. -/
theorem drain_succ (fuel position : Nat) (s : State) :
    ((∀ items, s.scope.slot? source = some (.list items) → items = []) ∧
      l.drain source (fuel + 1) position s = ⟨[], .ok .next, s⟩) ∨
    ∃ r items, r.before = s ∧ r.Takes l source position items ∧
      (¬ r.GoesOn ∧ l.drain source (fuel + 1) position s = ⟨[r], r.ending, r.after⟩ ∨
        r.GoesOn ∧ l.drain source (fuel + 1) position s =
          (l.drain source fuel (position + 1) r.after).behind r) := by
  rw [drain]
  cases hpop : s.scope.popped? source with
  | none => exact .inl ⟨Context.popped?_eq_none hpop, rfl⟩
  | some p =>
    obtain ⟨element, c⟩ := p
    right
    dsimp only
    rcases hrun : l.body { s with scope := l.begin c element position } with
      ⟨failure | flow, after⟩
    · obtain ⟨items, htakes⟩ := takes_of_popped hform hsource hpop position hrun
      exact ⟨_, items, rfl, htakes, .inl ⟨nofun, rfl⟩⟩
    · obtain ⟨items, htakes⟩ := takes_of_popped hform hsource hpop position hrun
      refine ⟨_, items, rfl, htakes, ?_⟩
      dsimp only
      cases hround : flow.ofRound with
      | some last =>
        refine .inl ⟨?_, ?_⟩
        · rintro ⟨flow', hflow', hnone⟩
          obtain rfl : flow = flow' := Except.ok.inj hflow'
          rw [hround] at hnone
          contradiction
        · simp only [StackRound.ending, Except.map, hround, Option.getD_some]
      | none => exact .inr ⟨⟨flow, rfl, hround⟩, rfl⟩

/-! ## Runs -/

/-- Every round begins where the one before it has ended. -/
theorem drain_chain (fuel position : Nat) (s : State) :
    let d := l.drain source fuel position s
    s :: d.rounds.map StackRound.after = d.rounds.map StackRound.before ++ [d.state] := by
  induction fuel generalizing position s with
  | zero => rfl
  | succ fuel ih =>
    obtain ⟨-, hdrain⟩ | ⟨r, items, rfl, -, ⟨-, hdrain⟩ | ⟨-, hdrain⟩⟩ :=
      drain_succ (l := l) hform hsource fuel position s
    · rw [hdrain]
      rfl
    · rw [hdrain]
      rfl
    · rw [hdrain]
      exact congrArg (r.before :: ·) (ih (position + 1) r.after)

theorem drain_takes (fuel position : Nat) (s : State) (k : Nat) (r : StackRound)
    (hr : (l.drain source fuel position s).rounds[k]? = some r) :
    ∃ items, r.Takes l source (position + k) items := by
  induction fuel generalizing position s k with
  | zero => contradiction
  | succ fuel ih =>
    obtain ⟨-, hdrain⟩ | ⟨r', items, -, htakes, hnext⟩ :=
      drain_succ (l := l) hform hsource fuel position s
    · rw [hdrain] at hr
      contradiction
    · cases k with
      | zero =>
        have hfirst : (l.drain source (fuel + 1) position s).rounds[0]? = some r' := by
          obtain ⟨-, hdrain⟩ | ⟨-, hdrain⟩ := hnext
          · rw [hdrain]
            rfl
          · rw [hdrain]
            rfl
        obtain rfl : r' = r := Option.some.inj (hfirst.symm.trans hr)
        exact ⟨items, htakes⟩
      | succ k =>
        obtain ⟨-, hdrain⟩ | ⟨-, hdrain⟩ := hnext
        · rw [hdrain] at hr
          contradiction
        · rw [hdrain] at hr
          have hrest := ih (position + 1) r'.after k hr
          rwa [show position + 1 + k = position + (k + 1) by omega] at hrest

/-- A loop that was not left by a round ends when there is nothing on the stack. -/
theorem drain_emptied (fuel position : Nat) (s : State)
    (hresult : (l.drain source fuel position s).result = .ok .next)
    (hleave : ∀ r ∈ (l.drain source fuel position s).rounds, r.result ≠ .ok .leave) :
    ∀ items, (l.drain source fuel position s).state.scope.slot? source = some (.list items) →
      items = [] := by
  induction fuel generalizing position s with
  | zero => contradiction
  | succ fuel ih =>
    obtain ⟨hnothing, hdrain⟩ | ⟨r, items, -, -, ⟨hlast, hdrain⟩ | ⟨-, hdrain⟩⟩ :=
      drain_succ (l := l) hform hsource fuel position s
    · rw [hdrain]
      exact hnothing
    · -- A round that is the last one with `next` was left.
      rw [hdrain] at hresult hleave
      exact absurd (StackRound.left_of_ending hlast hresult)
        (hleave r (List.mem_singleton_self r))
    · rw [hdrain] at hresult hleave ⊢
      exact ih (position + 1) r.after hresult fun r' hr' =>
        hleave r' (List.mem_cons_of_mem r hr')

end LoopBody

/-! ## Arrivals -/

/-- Items are taken off the end of a list, and behind each one others are pushed. -/
inductive Stacked : List Value → List (Value × List Value) → List Value → Prop
  | done (items : List Value) : Stacked items [] items
  | round {items pushed final : List Value} {element : Value} {rounds : List (Value × List Value)} :
    Stacked (items ++ pushed) rounds final →
      Stacked (items ++ [element]) ((element, pushed) :: rounds) final

/-- What was on a stack at any time, in the order in which it came there: first what was there
from the beginning, and then what was pushed.  The number of an arrival is its position. -/
def arrivals (initial : List Value) (pushed : List (List Value)) : List Value :=
  initial ++ pushed.flatten

/-- The numbers of the arrivals that were bound, in the order in which they were, and of those
that are waiting, in the order in which they are on the stack. -/
structure Ledger (initial : List Value) (pushed : List (List Value)) (bound final : List Value)
    (order waiting : List Nat) : Prop where
  /-- Every arrival was bound once, or is waiting. -/
  once : (order ++ waiting).Perm (List.range (arrivals initial pushed).length)
  wasBound : order.map (fun a => (arrivals initial pushed)[a]?) = bound.map some
  isWaiting : waiting.map (fun a => (arrivals initial pushed)[a]?) = final.map some
  /-- What is waiting is still in its place. -/
  inPlace : waiting.Pairwise (· < ·)
  /-- The last one in is the first one out: what is bound in a round has arrived before it, and
  nothing that has arrived before it and was not bound yet has arrived later. -/
  latest : ∀ k a, order[k]? = some a → a < (arrivals initial (pushed.take k)).length ∧
    ∀ b, b < (arrivals initial (pushed.take k)).length → b ∉ order.take k → b ≤ a

theorem arrivals_cons (initial pushed : List Value) (rest : List (List Value)) :
    arrivals initial (pushed :: rest) = arrivals (initial ++ pushed) rest := by
  rw [arrivals, arrivals, List.flatten_cons, List.append_assoc]

/-- Numbers that are found keep what they stand for when more arrives. -/
theorem map_getElem?_append {as bs : List Value} {numbers : List Nat}
    (h : ∀ a ∈ numbers, a < as.length) :
    numbers.map (fun a => (as ++ bs)[a]?) = numbers.map (fun a => as[a]?) :=
  List.map_congr_left fun a ha => List.getElem?_append_left (h a ha)

/-- The numbers of what arrives next. -/
theorem map_getElem?_range' (as bs : List Value) :
    (List.range' as.length bs.length).map (fun a => (as ++ bs)[a]?) = bs.map some := by
  refine List.ext_getElem? fun i => ?_
  by_cases hi : i < bs.length
  · simp [hi]
  · simp [hi]

/-- The numbers of what is on a stack behind a round, if `numbers` are those of what the round
left on it. -/
theorem numbers_behind {arrived items : List Value} (pushed : List Value) {numbers : List Nat}
    (hplace : numbers.Pairwise (· < ·)) (hlt : ∀ a ∈ numbers, a < arrived.length)
    (hitems : numbers.map (fun a => arrived[a]?) = items.map some) :
    let numbers' := numbers ++ List.range' arrived.length pushed.length
    numbers'.Pairwise (· < ·) ∧ (∀ a ∈ numbers', a < (arrived ++ pushed).length) ∧
      numbers'.map (fun a => (arrived ++ pushed)[a]?) = (items ++ pushed).map some := by
  intro numbers'
  refine ⟨?_, ?_, ?_⟩
  · refine List.pairwise_append.mpr ⟨hplace, List.pairwise_lt_range', fun a ha b hb => ?_⟩
    exact Nat.lt_of_lt_of_le (hlt a ha) (List.mem_range'_1.mp hb).1
  · intro a ha
    rw [List.length_append]
    rcases List.mem_append.mp ha with ha | ha
    · exact Nat.lt_of_lt_of_le (hlt a ha) (Nat.le_add_right _ _)
    · exact (List.mem_range'_1.mp ha).2
  · rw [List.map_append, map_getElem?_append hlt, hitems, map_getElem?_range', List.map_append]

/-- Every round binds the latest of what is on the stack: one of `numbers`, or one that was
pushed since. -/
def BindsLatest (arrived : List Value) (numbers : List Nat) (pushed : List (List Value))
    (order : List Nat) : Prop :=
  ∀ k a, order[k]? = some a → a < (arrivals arrived (pushed.take k)).length ∧
    ∀ b, b ∈ numbers ∨ arrived.length ≤ b ∧ b < (arrivals arrived (pushed.take k)).length →
      b ∉ order.take k → b ≤ a

/-- A round that binds the top of a stack comes before rounds that begin with the rest of it and
with what was pushed. -/
theorem bindsLatest_cons {arrived pushed : List Value} {rest : List (List Value)}
    {left order : List Nat} {top : Nat} (htop : top < arrived.length)
    (hleft : ∀ a ∈ left, a < top)
    (h : BindsLatest (arrived ++ pushed) (left ++ List.range' arrived.length pushed.length) rest
      order) :
    BindsLatest arrived (left ++ [top]) (pushed :: rest) (top :: order) := by
  intro k a ha
  cases k with
  | zero =>
    obtain rfl : top = a := Option.some.inj ha
    rw [List.take_zero, arrivals, List.flatten_nil, List.append_nil]
    refine ⟨htop, fun b hb _ => ?_⟩
    rcases hb with hb | ⟨hle, hlt⟩
    · rcases List.mem_append.mp hb with hb | hb
      · exact Nat.le_of_lt (hleft b hb)
      · exact Nat.le_of_eq (List.mem_singleton.mp hb)
    · exact absurd hlt (Nat.not_lt_of_le hle)
  | succ k =>
    obtain ⟨harrived, hbefore⟩ := h k a ha
    rw [List.take_succ_cons, arrivals_cons]
    refine ⟨harrived, fun b hb hnot => ?_⟩
    rw [List.take_succ_cons, List.mem_cons, not_or] at hnot
    refine hbefore b ?_ hnot.2
    rcases hb with hb | ⟨hle, hlt⟩
    · rcases List.mem_append.mp hb with hb | hb
      · exact .inl (List.mem_append_left _ hb)
      · exact absurd (List.mem_singleton.mp hb) hnot.1
    · by_cases hpushed : b < (arrived ++ pushed).length
      · refine .inl (List.mem_append_right _ (List.mem_range'_1.mpr ⟨hle, ?_⟩))
        rwa [List.length_append] at hpushed
      · exact .inr ⟨Nat.le_of_not_lt hpushed, hlt⟩

/-- The ledger of rounds that begin when some have arrived, `numbers` of them on the stack. -/
theorem Stacked.ledger_from {items final : List Value} {rounds : List (Value × List Value)}
    (h : Stacked items rounds final) (arrived : List Value) (numbers : List Nat)
    (hplace : numbers.Pairwise (· < ·)) (hlt : ∀ a ∈ numbers, a < arrived.length)
    (hitems : numbers.map (fun a => arrived[a]?) = items.map some) :
    let pushed := rounds.map Prod.snd
    ∃ order waiting : List Nat,
      (order ++ waiting).Perm (numbers ++ List.range' arrived.length pushed.flatten.length) ∧
      order.map (fun a => (arrivals arrived pushed)[a]?) = (rounds.map Prod.fst).map some ∧
      waiting.map (fun a => (arrivals arrived pushed)[a]?) = final.map some ∧
      waiting.Pairwise (· < ·) ∧ BindsLatest arrived numbers pushed order := by
  induction h generalizing arrived numbers with
  | done items =>
    refine ⟨[], numbers, ?_, rfl, ?_, hplace, nofun⟩
    · simp
    · simpa [arrivals] using hitems
  | @round items pushed final element rounds hrounds ih =>
    obtain rfl | ⟨left, top, rfl⟩ := List.eq_nil_or_concat' numbers
    · simp at hitems
    rw [List.map_append, List.map_append] at hitems
    obtain ⟨hleft, htop⟩ := List.append_inj' hitems rfl
    rw [List.pairwise_append] at hplace
    have htopLt : top < arrived.length :=
      hlt top (List.mem_append_right _ (List.mem_singleton_self top))
    have hbelow (a : Nat) (ha : a ∈ left) : a < top :=
      hplace.2.2 a ha top (List.mem_singleton_self top)
    obtain ⟨hplace', hlt', hitems'⟩ := numbers_behind pushed hplace.1
      (fun a ha => hlt a (List.mem_append_left _ ha)) hleft
    obtain ⟨order, waiting, honce, hbound, hwaiting, hinPlace, hlatest⟩ :=
      ih (arrived ++ pushed) _ hplace' hlt' hitems'
    have htopFound : (arrivals (arrived ++ pushed) (rounds.map Prod.snd))[top]? = some element := by
      rw [arrivals, List.append_assoc, List.getElem?_append_left htopLt]
      exact List.head_eq_of_cons_eq htop
    have hrange : List.range' arrived.length (pushed :: rounds.map Prod.snd).flatten.length =
        List.range' arrived.length pushed.length ++
          List.range' (arrived ++ pushed).length (rounds.map Prod.snd).flatten.length := by
      rw [List.flatten_cons, List.length_append, List.length_append, List.range'_append_1]
    simp only [List.map_cons, arrivals_cons]
    refine ⟨top :: order, waiting, ?_, ?_, hwaiting, hinPlace,
      bindsLatest_cons htopLt hbelow hlatest⟩
    · rw [hrange, List.cons_append, List.append_assoc left, List.singleton_append]
      rw [List.append_assoc] at honce
      exact (honce.cons top).trans List.perm_middle.symm
    · rw [List.map_cons, htopFound, hbound]

/-- Nothing on a stack is lost, and nothing is taken off it twice. -/
theorem Stacked.ledger {initial final : List Value} {rounds : List (Value × List Value)}
    (h : Stacked initial rounds final) : ∃ order waiting,
      Ledger initial (rounds.map Prod.snd) (rounds.map Prod.fst) final order waiting := by
  have hinitial : (List.range initial.length).map (fun a => initial[a]?) = initial.map some := by
    have hall := map_getElem?_range' [] initial
    rwa [List.length_nil, ← List.range_eq_range'] at hall
  obtain ⟨order, waiting, honce, hbound, hwaiting, hinPlace, hlatest⟩ :=
    h.ledger_from initial (List.range initial.length) List.pairwise_lt_range
      (fun a => List.mem_range.mp) hinitial
  refine ⟨order, waiting, { once := ?_, wasBound := hbound, isWaiting := hwaiting,
                            inPlace := hinPlace, latest := fun k a ha => ?_ }⟩
  · rw [arrivals, List.length_append, List.range_eq_range', ← List.range'_append_1, Nat.zero_add,
      ← List.range_eq_range']
    exact honce
  · obtain ⟨harrived, hbefore⟩ := hlatest k a ha
    refine ⟨harrived, fun b hb hnot => hbefore b ?_ hnot⟩
    by_cases hfirst : b < initial.length
    · exact .inl (List.mem_range.mpr hfirst)
    · exact .inr ⟨Nat.le_of_not_lt hfirst, hb⟩

/-! ## Trees -/

/-- A finite tree of values. -/
inductive Tree where
  | node (label : Value) (subtrees : List Tree)

namespace Tree

def label : Tree → Value
  | node label _ => label

mutual

/-- The labels of a tree in depth first order, behind each one its subtrees, the last one
first. -/
def visits : Tree → List Value
  | node label subtrees => label :: visitsLast subtrees

/-- The labels of several trees, the last one first. -/
def visitsLast : List Tree → List Value
  | [] => []
  | t :: ts => visitsLast ts ++ t.visits

end

theorem visitsLast_append (ts us : List Tree) :
    visitsLast (ts ++ us) = visitsLast us ++ visitsLast ts := by
  induction ts with
  | nil => rw [visitsLast, List.append_nil, List.nil_append]
  | cons t ts ih => rw [List.cons_append, visitsLast, visitsLast, ih, List.append_assoc]

/-- The last root comes first, and then the rest with its subtrees behind the others. -/
theorem visitsLast_concat (ts : List Tree) (label : Value) (subtrees : List Tree) :
    visitsLast (ts ++ [node label subtrees]) = label :: visitsLast (ts ++ subtrees) := by
  rw [visitsLast_append, visitsLast_append]
  rfl

/-- Every node has the children that a function gives for its label. -/
inductive Grown (children : Value → List Value) : Tree → Prop
  | node {label : Value} {subtrees : List Tree} :
    subtrees.map Tree.label = children label → (∀ t ∈ subtrees, Grown children t) →
      Grown children (node label subtrees)

end Tree

/-! ## What bodies push -/

namespace LoopBody

variable {l : LoopBody} {source : String}

/-- What a round took and what it left is what was on the stack. -/
theorem taken {r : StackRound} {position : Nat} {left items pushed : List Value}
    (htakes : r.Takes l source position left) (hpushes : r.Pushes source pushed)
    (hitems : r.before.scope.slot? source = some (.list items)) :
    items = left ++ [r.element] ∧ r.after.scope.slot? source = some (.list (left ++ pushed)) := by
  obtain ⟨left', hleft', hafter⟩ := hpushes
  have hsame : left = left' := by
    have heq := htakes.left.symm.trans hleft'
    simpa using heq
  have hall : items = left ++ [r.element] := by
    have heq := hitems.symm.trans htakes.found
    simpa using heq
  exact ⟨hall, hsame ▸ hafter⟩

variable (hform : source ≠ "form") (hsource : Context.inForm? source = none)

include hform hsource

/-- If the bodies only push, the list behind the loop is what is left on the stack. -/
theorem drain_stacked (pushed : StackRound → List Value) (fuel position : Nat) (s : State)
    {items : List Value} (hitems : s.scope.slot? source = some (.list items))
    (hpushes : ∀ r ∈ (l.drain source fuel position s).rounds, r.Pushes source (pushed r)) :
    let d := l.drain source fuel position s
    ∃ final, d.state.scope.slot? source = some (.list final) ∧
      Stacked items (d.rounds.map fun r => (r.element, pushed r)) final := by
  induction fuel generalizing position s items with
  | zero => exact ⟨items, hitems, .done items⟩
  | succ fuel ih =>
    obtain ⟨-, hdrain⟩ | ⟨r, left, rfl, htakes, ⟨-, hdrain⟩ | ⟨-, hdrain⟩⟩ :=
      drain_succ (l := l) hform hsource fuel position s
    · rw [hdrain]
      exact ⟨items, hitems, .done items⟩
    · rw [hdrain] at hpushes ⊢
      obtain ⟨rfl, hafter⟩ := taken htakes (hpushes r (List.mem_singleton_self r)) hitems
      exact ⟨_, hafter, .round (.done _)⟩
    · rw [hdrain] at hpushes ⊢
      obtain ⟨rfl, hafter⟩ := taken htakes (hpushes r (List.mem_cons_self)) hitems
      obtain ⟨final, hfinal, hstacked⟩ := ih (position + 1) r.after hafter fun r' hr' =>
        hpushes r' (List.mem_cons_of_mem r hr')
      exact ⟨final, hfinal, .round hstacked⟩

/-- If every body goes on and pushes the children of what was bound, and what is on the stack
has grown into finite trees, their nodes are bound in depth first order. -/
theorem drain_forest {children : Value → List Value} (fuel position : Nat) (s : State)
    {forest : List Tree} (hstack : s.scope.slot? source = some (.list (forest.map Tree.label)))
    (hgrown : ∀ t ∈ forest, t.Grown children)
    (hrounds : ∀ r ∈ (l.drain source fuel position s).rounds,
      r.GoesOn ∧ r.Pushes source (children r.element))
    (hfuel : (Tree.visitsLast forest).length < fuel) :
    (l.drain source fuel position s).result = .ok .next ∧
      (l.drain source fuel position s).rounds.map StackRound.element = Tree.visitsLast forest := by
  induction fuel generalizing position s forest with
  | zero => exact absurd hfuel (Nat.not_lt_zero _)
  | succ fuel ih =>
    obtain ⟨hnothing, hdrain⟩ | ⟨r, left, rfl, htakes, hnext⟩ :=
      drain_succ (l := l) hform hsource fuel position s
    · obtain rfl := List.map_eq_nil_iff.mp (hnothing _ hstack)
      rw [hdrain]
      exact ⟨rfl, rfl⟩
    · obtain ⟨hlast, hdrain⟩ | ⟨-, hdrain⟩ := hnext
      · rw [hdrain] at hrounds
        exact absurd (hrounds r (List.mem_singleton_self r)).1 hlast
      · rw [hdrain] at hrounds ⊢
        obtain ⟨hlabels, hafter⟩ := taken htakes (hrounds r List.mem_cons_self).2 hstack
        -- The round has taken the root of the last tree, and pushed the roots of its subtrees.
        obtain ⟨rest, last, rfl, rfl, htop⟩ := List.map_eq_append_iff.mp hlabels
        obtain ⟨t, rfl, hlabel⟩ := List.map_eq_singleton_iff.mp htop
        obtain @⟨label, subtrees, hchildren, hsubtrees⟩ :=
          hgrown t (List.mem_append_right _ (List.mem_singleton_self t))
        have hstack' : r.after.scope.slot? source =
            some (.list ((rest ++ subtrees).map Tree.label)) := by
          rw [List.map_append, hchildren, show label = r.element from hlabel]
          exact hafter
        rw [Tree.visitsLast_concat] at hfuel ⊢
        obtain ⟨hresult, hvisits⟩ := ih (position + 1) r.after hstack'
          (List.forall_mem_append.mpr
            ⟨fun t ht => hgrown t (List.mem_append_left _ ht), hsubtrees⟩)
          (fun r' hr' => hrounds r' (List.mem_cons_of_mem r hr')) (Nat.lt_of_succ_lt_succ hfuel)
        exact ⟨hresult, congrArg₂ _ hlabel.symm hvisits⟩

end LoopBody

/-! ## Loops -/

/-- What the rounds of a loop over a stack come to that was begun in `s` with so much fuel. -/
structure LoopBody.IsWorklist (l : LoopBody) (source : String) (fuel : Nat) (s : State)
    (d : Drained) : Prop where
  /-- Every round begins where the one before it has ended. -/
  chain : s :: d.rounds.map StackRound.after = d.rounds.map StackRound.before ++ [d.state]
  takes : ∀ (k : Nat) (r : StackRound), d.rounds[k]? = some r → ∃ items, r.Takes l source k items
  /-- A loop that ends with `next`, and not because a round was left, ends with nothing on the
  stack. -/
  emptied : d.result = .ok .next → (∀ r ∈ d.rounds, r.result ≠ .ok .leave) →
    ∀ items, d.state.scope.slot? source = some (.list items) → items = []
  /-- If the bodies only push, nothing is lost and nothing is bound twice. -/
  conserves : ∀ (pushed : StackRound → List Value) (initial : List Value),
    s.scope.slot? source = some (.list initial) →
    (∀ r ∈ d.rounds, r.Pushes source (pushed r)) →
    ∃ final order waiting, d.state.scope.slot? source = some (.list final) ∧
      Ledger initial (d.rounds.map pushed) (d.rounds.map StackRound.element) final order waiting
  /-- If the bodies push the children of what was bound, and these make finite trees, then the
  loop ends behind all of their nodes. -/
  explores : ∀ (children : Value → List Value) (forest : List Tree),
    s.scope.slot? source = some (.list (forest.map Tree.label)) →
    (∀ t ∈ forest, t.Grown children) →
    (∀ r ∈ d.rounds, r.GoesOn ∧ r.Pushes source (children r.element)) →
    (Tree.visitsLast forest).length < fuel →
    d.result = .ok .next ∧ d.rounds.map StackRound.element = Tree.visitsLast forest

theorem LoopBody.drain_isWorklist (l : LoopBody) {source : String} (hform : source ≠ "form")
    (hsource : Context.inForm? source = none) (fuel : Nat) (s : State) :
    l.IsWorklist source fuel s (l.drain source fuel 0 s) where
  chain := drain_chain hform hsource fuel 0 s
  takes k r hr := by
    have htakes := drain_takes hform hsource fuel 0 s k r hr
    rwa [Nat.zero_add] at htakes
  emptied := drain_emptied hform hsource fuel 0 s
  conserves pushed initial hinitial hpushes := by
    obtain ⟨final, hfinal, hstacked⟩ :=
      drain_stacked hform hsource pushed fuel 0 s hinitial hpushes
    obtain ⟨order, waiting, hledger⟩ := hstacked.ledger
    rw [List.map_map, List.map_map] at hledger
    exact ⟨final, order, waiting, hfinal, hledger⟩
  explores children forest := drain_forest hform hsource fuel 0 s

namespace Run

variable (h : Host) (exec : Node → Run Flow) (n : Node)

/-- The rounds that a loop over a stack runs. -/
theorem roundsWithin_eq_drain (source : String) (saved : Snapshot) {l : LoopBody}
    (hl : l = ⟨sequence exec n.children, saved.form, n.name? "field", []⟩)
    (fuel position : Nat) (s : State) :
    roundsWithin (fun position => do
        match ← pop source with
        | none => return some .next
        | some element => do
          bindElement saved element (n.name? "field") position
          bodyRound exec n) fuel position s =
      ((l.drain source fuel position s).result, (l.drain source fuel position s).state) := by
  induction fuel generalizing position s with
  | zero => rfl
  | succ fuel ih =>
    rw [roundsWithin, bind_apply, bind_apply, pop_apply, LoopBody.drain]
    cases s.scope.popped? source with
    | none => rfl
    | some p =>
      obtain ⟨element, c⟩ := p
      subst hl
      dsimp only
      rw [bind_apply, bindElement_apply ⟨_, _, n.name? "field", []⟩ rfl]
      dsimp only
      rw [bodyRound, bind_apply]
      rcases sequence exec n.children _ with ⟨failure | flow, after⟩
      · rfl
      · simp only [pure_apply]
        cases flow.ofRound with
        | some last => rfl
        | none => exact ih (position + 1) after

/-- A loop over a stack comes to what its rounds come to, with the form and the position put
back. -/
theorem stackLoop_eq_drain {source : String} {s : State}
    (hsource : h.attr n "source" s.scope = .ok source) (hform : source ≠ "form")
    (hstart : startsWith Context.formPrefix source = false) (fuel : Nat) :
    let d := LoopBody.drain ⟨sequence exec n.children, s.scope.form, n.name? "field", []⟩
      source fuel 0 s
    stackLoop h fuel exec n s =
      (d.result, { d.state with scope := d.state.scope.restore s.scope.save }) := by
  intro d
  rw [stackLoop, bind_apply, ask_apply, hsource]
  simp only [Except.mapError, hform, hstart, decide_false, Bool.or_false, Bool.false_eq_true,
    if_false, restoring_apply]
  exact congrArg
    (fun p : Except Failure Flow × State =>
      (p.1, { p.2 with scope := p.2.scope.restore s.scope.save }))
    (roundsWithin_eq_drain exec n source s.scope.save rfl fuel 0 s)

/-- **A loop over a stack is a faithful worklist.**  Every round binds the last item of the list
that is at the source when it begins, to the form from before the loop and with its own
position, and the body begins with the list without it; what the body leaves there is what
the next round finds. -/
theorem stack_loop_is_worklist (h : Host) (fuel : Nat) (n : Node) (s : State) {source : String}
    (hi : h.registry.find? n.name = some .stackLoop)
    (hsource : h.attr n "source" s.scope = .ok source) (hform : source ≠ "form")
    (hstart : startsWith Context.formPrefix source = false) :
    let l : LoopBody := ⟨sequence (execute h fuel) n.children, s.scope.form, n.name? "field", []⟩
    let d := l.drain source fuel 0 (beginning n s)
    l.IsWorklist source fuel (beginning n s) d ∧
      execute h (fuel + 1) n s =
        finished n (d.result, { d.state with scope := d.state.scope.restore s.scope.save }) ∧
      (execute h (fuel + 1) n s).2.scope.slot? source = d.state.scope.slot? source := by
  intro l d
  have hin := Context.inForm?_eq_none hstart
  have hrun : execute h (fuel + 1) n s =
      finished n (d.result, { d.state with scope := d.state.scope.restore s.scope.save }) := by
    have hsource' : h.attr n "source" (beginning n s).scope = .ok source := hsource
    rw [execute_known hi, perform, stackLoop_eq_drain h (execute h fuel) n hsource' hform hstart]
    rfl
  refine ⟨l.drain_isWorklist hform hin fuel _, hrun, ?_⟩
  rw [hrun]
  exact Context.slot?_eq_of_fields hin rfl

/-- A loop over `work` that pushes `2` and `1` behind `3`. -/
def consumeWork : Node :=
  { name := "stack-loop", attributes := [("source", "work"), ("field", "n")],
    children := [{ name := "block", attributes := [("condition", "{n} == 3")],
                   children := [
                     { name := "push", attributes := [("ref", "work"), ("value", "2")] },
                     { name := "push", attributes := [("ref", "work"), ("value", "1")] }] }] }

/-- A stack with `3` on it. -/
def threeToDo : Context := { fields := [("work", .list [.text "3"])] }

theorem stack_loop_is_worklist_consumeWork :
    let h := Host.ofLibrary {}
    let s := State.ofScope threeToDo
    let l : LoopBody := ⟨sequence (execute h 5) consumeWork.children, [], some "n", []⟩
    let d := l.drain "work" 5 0 (beginning consumeWork s)
    (h.registry.find? consumeWork.name = some .stackLoop ∧
      h.attr consumeWork "source" s.scope = .ok "work" ∧ "work" ≠ "form" ∧
      startsWith Context.formPrefix "work" = false) ∧
    l.IsWorklist "work" 5 (beginning consumeWork s) d ∧
    d.result = .ok .next ∧
    d.rounds.map StackRound.element = [.text "3", .text "1", .text "2"] := by
  intro h s l d
  have hsource : h.attr consumeWork "source" s.scope = .ok "work" := by cbv
  have hfield : consumeWork.name? "field" = some "n" := by decide +kernel
  have hwork : l.IsWorklist "work" 5 (beginning consumeWork s) d := by
    have hloop := (stack_loop_is_worklist h 5 consumeWork s rfl hsource (by decide) (by decide)).1
    rwa [hfield] at hloop
  let children : Value → List Value := fun v => if v = .text "3" then [.text "2", .text "1"] else []
  let tree : Tree := .node (.text "3") [.node (.text "2") [], .node (.text "1") []]
  have htree : tree.Grown children := by
    refine .node (by decide) fun t ht => ?_
    have hleaf (label : Value) (hlabel : label ≠ .text "3") : (Tree.node label []).Grown children :=
      .node (if_neg hlabel).symm fun t ht => absurd ht List.not_mem_nil
    rcases List.mem_pair.mp ht with rfl | rfl
    · exact hleaf _ (by decide)
    · exact hleaf _ (by decide)
  obtain ⟨hresult, helements⟩ := hwork.explores children [tree] (by decide +kernel)
    (fun t ht => List.mem_singleton.mp ht ▸ htree) (by decide +kernel) (by decide)
  exact ⟨⟨rfl, hsource, by decide, by decide⟩, hwork, hresult, helements⟩

end Run

end ActionTree
