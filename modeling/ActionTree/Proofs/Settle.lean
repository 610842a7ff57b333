import ActionTree.Proofs.Run
import Mathlib.Order.Filter.Basic

/-!
# ActionTree.Proofs.Settle

Families of runs that settle.

A family has a run for every index: one for every amount of fuel, or one for every way in
which stored responses may be found, or a single one.  It *settles* from a state if all its
runs, from some index on, have the same result there and leave the same state, the result
is of a given kind, and the state is of the kind that the first one was of (`Settles`).

What is put together from families that settle settles, one rule for each way of putting
runs together.  Along `atTop` a family over fuel that settles terminates.  Along `⊤` all
runs of the family are the same.
-/

namespace ActionTree

namespace Run

/-! ## Results -/

/-- The failures of a result are of a kind. -/
def Allows {α : Type} (P : Failure → Prop) (r : Except Failure α) : Prop :=
  ∀ failure, r = .error failure → P failure

theorem allows_ok {α : Type} (P : Failure → Prop) (a : α) : Allows P (.ok a) := by
  intro failure hfailure
  contradiction

theorem allows_error {α : Type} {P : Failure → Prop} {failure : Failure} (hP : P failure) :
    Allows P (.error failure : Except Failure α) := by
  intro failure' hfailure
  rwa [← Except.error.inj hfailure]

/-! ## Families -/

section Families

variable {κ α β : Type} {F : Filter κ} {I : State → Prop}

/-- From a state on, a family comes to one end: a result of a kind, and a state of a kind. -/
def SettlesFrom (F : Filter κ) (I : State → Prop) (Q : Except Failure α → Prop)
    (x : κ → Run α) (s : State) : Prop :=
  ∃ result t, (∀ᶠ k in F, x k s = (result, t)) ∧ Q result ∧ I t

/-- From every state of a kind a family comes to one end. -/
def Settles (F : Filter κ) (I : State → Prop) (Q : Except Failure α → Prop) (x : κ → Run α) :
    Prop := ∀ s, I s → SettlesFrom F I Q x s

theorem SettlesFrom.congr {Q : Except Failure α → Prop} {x y : κ → Run α} {s : State}
    (hx : SettlesFrom F I Q x s) (hxy : ∀ᶠ k in F, y k s = x k s) : SettlesFrom F I Q y s := by
  obtain ⟨result, t, hend, hresult, ht⟩ := hx
  refine ⟨result, t, ?_, hresult, ht⟩
  filter_upwards [hend, hxy] with k hk hyk
  rw [hyk, hk]

/-- One run and then another, which is chosen by what the first one came to. -/
theorem SettlesFrom.bind {Q : Except Failure α → Prop} {R : Except Failure β → Prop}
    {x : κ → Run α} {f : κ → α → Run β} {s : State} (hx : SettlesFrom F I Q x s)
    (hfail : ∀ failure, Q (.error failure) → R (.error failure))
    (hf : ∀ a, Q (.ok a) → Settles F I R fun k => f k a) :
    SettlesFrom F I R (fun k => x k >>= f k) s := by
  obtain ⟨result, t, hend, hresult, ht⟩ := hx
  cases result with
  | error failure =>
    refine ⟨.error failure, t, ?_, hfail failure hresult, ht⟩
    filter_upwards [hend] with k hk
    rw [bind_apply, hk]
  | ok a =>
    obtain ⟨last, u, hlast, hkind, hu⟩ := hf a hresult t ht
    refine ⟨last, u, ?_, hkind, hu⟩
    filter_upwards [hend, hlast] with k hk hlk
    rw [bind_apply, hk]
    exact hlk

namespace Settles

/-- One run alone. -/
theorem const {Q : Except Failure α → Prop} {x : Run α} (hQ : ∀ s, I s → Q (x s).1)
    (hI : ∀ s, I s → I (x s).2) : Settles F I Q fun _ => x :=
  fun s hs => ⟨(x s).1, (x s).2, .of_forall fun _ => rfl, hQ s hs, hI s hs⟩

theorem bind {Q : Except Failure α → Prop} {R : Except Failure β → Prop} {x : κ → Run α}
    {f : κ → α → Run β} (hx : Settles F I Q x)
    (hfail : ∀ failure, Q (.error failure) → R (.error failure))
    (hf : ∀ a, Q (.ok a) → Settles F I R fun k => f k a) :
    Settles F I R fun k => x k >>= f k := fun s hs => (hx s hs).bind hfail hf

/-- What a family of one run says of that run. -/
theorem run [F.NeBot] {Q : Except Failure α → Prop} {x : Run α}
    (hx : Settles F I Q fun _ => x) {s : State} (hs : I s) : Q (x s).1 ∧ I (x s).2 := by
  obtain ⟨result, t, hend, hresult, ht⟩ := hx s hs
  obtain ⟨_, hend⟩ := hend.exists
  have hrun : x s = (result, t) := hend
  rw [hrun]
  exact ⟨hresult, ht⟩

variable {P : Failure → Prop}

theorem pure (a : α) : Settles F I (Allows P) fun _ => (Pure.pure a : Run α) :=
  const (fun _ _ => allows_ok P a) fun _ hs => hs

theorem throw {failure : Failure} (hP : P failure) :
    Settles F I (Allows P) fun _ => (MonadExcept.throw failure : Run α) :=
  const (fun _ _ => allows_error hP) fun _ hs => hs

theorem fail {e : Error} (hP : P (.error e)) :
    Settles F I (Allows P) fun _ => (Run.fail e : Run α) := throw hP

theorem release {r : Except Failure α} (hr : Allows P r) :
    Settles F I (Allows P) fun _ => Run.release r := by
  cases r with
  | ok a => exact pure a
  | error failure => exact throw (hr failure rfl)

/-- One run after another, when the failures of both are of one kind. -/
theorem andThen {x : κ → Run α} {f : κ → α → Run β} (hx : Settles F I (Allows P) x)
    (hf : ∀ a, Settles F I (Allows P) fun k => f k a) :
    Settles F I (Allows P) fun k => x k >>= f k :=
  bind hx (fun failure hfailure => allows_error (hfailure failure rfl)) fun a _ => hf a

theorem scope_bind {f : κ → Context → Run β} (hf : ∀ c, Settles F I (Allows P) fun k => f k c) :
    Settles F I (Allows P) fun k => Run.scope >>= f k :=
  andThen (const (fun s _ => allows_ok P s.scope) fun _ hs => hs) hf

/-- A question that is answered or refused. -/
theorem ask_bind {question : Context → Except Error α} {f : κ → α → Run β}
    (hq : ∀ c e, question c = .error e → P (.error e))
    (hf : ∀ a, Settles F I (Allows P) fun k => f k a) :
    Settles F I (Allows P) fun k => ask question >>= f k := by
  refine andThen (const (fun s _ => ?_) fun s hs => ?_) hf
  · rw [ask_apply]
    cases hanswer : question s.scope with
    | ok a => exact allows_ok P a
    | error e => exact allows_error (hq s.scope e hanswer)
  · rwa [ask_apply]

/-- A result that was held back. -/
theorem attempt {x : κ → Run α} (hx : Settles F I (Allows P) x) :
    Settles F I (fun r => ∃ held, r = .ok held ∧ Allows P held) fun k => Run.attempt (x k) := by
  intro s hs
  obtain ⟨result, t, hend, hresult, ht⟩ := hx s hs
  refine ⟨.ok result, t, ?_, ⟨result, rfl, hresult⟩, ht⟩
  filter_upwards [hend] with k hk
  rw [attempt_apply, hk]

/-! ### Sequences and rounds -/

theorem sequence {exec : κ → Node → Run Flow} {nodes : List Node}
    (hnodes : ∀ n ∈ nodes, Settles F I (Allows P) fun k => exec k n) :
    Settles F I (Allows P) fun k => Run.sequence (exec k) nodes := by
  induction nodes with
  | nil => exact pure Flow.next
  | cons n ns ih =>
    refine andThen (hnodes n List.mem_cons_self) fun flow => ?_
    cases flow with
    | next => exact ih fun m hm => hnodes m (List.mem_cons_of_mem n hm)
    | _ => exact pure _

theorem roundThen {round : κ → Run (Option Flow)} {rest : κ → Run Flow}
    (hround : Settles F I (Allows P) round) (hrest : Settles F I (Allows P) rest) :
    Settles F I (Allows P) fun k => Run.roundThen (round k) (rest k) := by
  refine andThen hround fun last => ?_
  cases last with
  | none => exact hrest
  | some flow => exact pure flow

theorem roundsAlong {p : Progression} {round : κ → Int → Nat → Run (Option Flow)}
    (hround : ∀ counter position, Settles F I (Allows P) fun k => round k counter position)
    (counter : Int) (position : Nat) :
    Settles F I (Allows P) fun k => Run.roundsAlong p (round k) counter position := by
  induction hd : p.distance counter using Nat.strong_induction_on generalizing counter position with
  | _ d ih =>
    rw [funext fun k => roundsAlong_eq p (round k) counter position]
    by_cases hbefore : p.isBefore counter = true
    · simp only [if_pos hbefore]
      refine roundThen (hround counter position) ?_
      cases hnext : p.next? counter with
      | none => exact pure Flow.next
      | some next =>
        exact ih _ (hd ▸ Progression.distance_next? hbefore hnext) next (position + 1) rfl
    · simp only [if_neg hbefore]
      exact pure Flow.next

theorem roundsWithin {round : κ → Nat → Run (Option Flow)} (hP : P .outOfFuel)
    (hround : ∀ position, Settles F I (Allows P) fun k => round k position)
    (fuel position : Nat) :
    Settles F I (Allows P) fun k => Run.roundsWithin (round k) fuel position := by
  induction fuel generalizing position with
  | zero => exact throw hP
  | succ fuel ih => exact roundThen (hround position) (ih (position + 1))

theorem roundsOver {round : κ → Nat → α → Run (Option Flow)} {atEnd : Run Flow}
    (hend : Settles F I (Allows P) fun _ => atEnd)
    (hround : ∀ position a, Settles F I (Allows P) fun k => round k position a)
    (items : List α) (position : Nat) :
    Settles F I (Allows P) fun k => Run.roundsOver (round k) atEnd items position := by
  induction items generalizing position with
  | nil => exact hend
  | cons a as ih => exact roundThen (hround position a) (ih (position + 1))

/-- Visits hold back the result of the last one. -/
theorem visit {round : κ → Nat → Value → Run (Flow × Value)}
    (hround : ∀ position v, Settles F I (Allows P) fun k => round k position v)
    (items : List (Nat × Value)) :
    Settles F I (fun r => ∃ visited, r = .ok visited ∧ Allows P visited.1)
      fun k => Run.visit (round k) items := by
  have held {visited : Except Failure Flow × List (Nat × Value)} (hr : Allows P visited.1) :
      Settles F I (fun r => ∃ visited, r = .ok visited ∧ Allows P visited.1)
        fun _ => (Pure.pure visited : Run _) :=
    const (fun _ _ => ⟨visited, rfl, hr⟩) fun _ hs => hs
  induction items with
  | nil => exact held (allows_ok P _)
  | cons item rest ih =>
    obtain ⟨position, v⟩ := item
    refine bind (attempt (hround position v)) (fun failure hfailure => ?_) fun result hresult => ?_
    · obtain ⟨_, hok, -⟩ := hfailure
      contradiction
    · obtain ⟨_, hheld, hallowed⟩ := hresult
      obtain rfl := Except.ok.inj hheld
      rcases result with failure | ⟨flow, w⟩
      · exact held (allows_error (hallowed failure rfl))
      · dsimp only
        cases flow.ofRound with
        | some last => exact held (allows_ok P _)
        | none =>
          refine bind ih (fun failure hfailure => ?_) fun visited hvisited => ?_
          · obtain ⟨_, hok, -⟩ := hfailure
            contradiction
          · obtain ⟨_, hsame, hr⟩ := hvisited
            obtain rfl := Except.ok.inj hsame
            exact held hr

end Settles

end Families

end Run

end ActionTree
