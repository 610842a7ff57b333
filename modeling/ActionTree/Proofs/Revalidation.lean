import ActionTree.Proofs.LoopFold

/-!
# ActionTree.Proofs.Revalidation

What a node does that asks whether a client's copy is current.

It has a tag, a date, both or neither for the resource it speaks of.  It stops with a status
line of its own if the request shows that the client's copy is current (`stopsCurrent_iff`),
and else goes on with the lines that tell the client what to send next time
(`goesOn_of_not_current`).
-/

namespace ActionTree

open Text Run

/-! ## Nodes -/

/-- A node that speaks of a resource with such a tag and such a date. -/
structure Node.Validates (n : Node) (h : Host) (c : Context) (tag : Option String)
    (date : Option Moment) : Prop where
  known : h.registry.find? n.name = some .notModified
  tag : h.tag? n c = .ok tag
  date : h.date? n c = .ok date

/-- A tag is what is left of the text of its attribute without blanks around it. -/
theorem Host.tag?_of_attr? {h : Host} {n : Node} {c : Context} {text : String}
    (hattr : h.attr? n "etag" c = .ok (some text)) (htext : trim text ≠ "") :
    h.tag? n c = .ok (some (trim text)) := by
  have htrimmed : trimmed? text = some (trim text) := by
    rw [trimmed?]
    exact if_neg fun hempty => htext (String.isEmpty_iff.1 hempty)
  rw [Host.tag?, hattr, ← htrimmed]
  rfl

theorem Host.date?_of_attr? {h : Host} {n : Node} {c : Context} {text : String} {t : Moment}
    (hattr : h.attr? n "timestamp" c = .ok (some text)) (htext : Moment.read? text = some t) :
    h.date? n c = .ok (some t) := by
  simp only [Host.date?, hattr, htext]

/-! ## Outcomes -/

/-- A state with more header lines put down. -/
def State.sending (s : State) (lines : List String) : State :=
  { s with output := { s.output with headers := s.output.headers ++ lines } }

namespace Run

/-- The node stops, with the status line that says that the client's copy is current. -/
def StopsCurrent (h : Host) (n : Node) (s : State) : Prop :=
  ∀ fuel, execute h (fuel + 1) n s =
    finished n (.ok .stop, (beginning n s).sending [notModifiedLine])

/-- The node goes on, with some header lines. -/
def GoesOn (h : Host) (n : Node) (s : State) (lines : List String) : Prop :=
  ∀ fuel, execute h (fuel + 1) n s = finished n (.ok .next, (beginning n s).sending lines)

section Outcomes

variable {h : Host} {n : Node} {s : State} {tag : Option String} {date : Option Moment}

theorem notModified_apply (hn : n.Validates h s.scope tag date) :
    notModified h n s =
      if isCurrent h.request tag date then (.ok .stop, s.sending [notModifiedLine])
      else (.ok .next, s.sending (validatorLines tag date)) := by
  simp only [notModified, bind_apply, ask_apply, hn.tag, hn.date, Except.mapError]
  split <;> rfl

theorem execute_validates (hn : n.Validates h s.scope tag date) (fuel : Nat) :
    execute h (fuel + 1) n s = finished n
      (if isCurrent h.request tag date then
        (.ok .stop, (beginning n s).sending [notModifiedLine])
      else (.ok .next, (beginning n s).sending (validatorLines tag date))) := by
  rw [execute_known hn.known, perform, notModified_apply (s := beginning n s) hn]
  rfl

theorem stopsCurrent_iff (hn : n.Validates h s.scope tag date) :
    StopsCurrent h n s ↔ isCurrent h.request tag date = true := by
  constructor
  · intro hstops
    by_contra hcurrent
    have hflow := congrArg Prod.fst (hstops 0)
    rw [execute_validates hn, if_neg hcurrent] at hflow
    exact nomatch hflow
  · intro hcurrent fuel
    rw [execute_validates hn, if_pos hcurrent]

theorem goesOn_of_not_current (hn : n.Validates h s.scope tag date)
    (hcurrent : isCurrent h.request tag date = false) :
    GoesOn h n s (validatorLines tag date) := by
  intro fuel
  rw [execute_validates hn, hcurrent]
  rfl

end Outcomes

end Run

end ActionTree
