import ActionTree.Envelope

/-!
# ActionTree.Flow

How a program goes on after an instruction.

Everything but `next` ends the sequence of instructions it comes from; who it
is meant for is decided by whatever that sequence stands in.  A loop takes
`skip` and `leave` for itself and passes on the rest.
-/

namespace ActionTree

/-- What a program replies with. -/
inductive Reply where
  /-- Data that has no status of its own. -/
  | value (v : Value)
  | envelope (e : Envelope)

/-- The reply as a value. -/
def Reply.toValue : Reply → Value
  | value v => v
  | envelope e => e.toValue

/-- How a program goes on. -/
inductive Flow where
  /-- With the next instruction. -/
  | next
  /-- With the next round of the innermost loop. -/
  | skip
  /-- Behind the innermost loop. -/
  | leave
  /-- Not at all: the response is complete. -/
  | stop
  /-- Not at all: this is the reply. -/
  | reply (r : Reply)

/-- What a loop does with the flow of a round: `none` to go on, or the flow
that the loop itself ends with. -/
def Flow.ofRound : Flow → Option Flow
  | next | skip => none
  | leave => some next
  | stop => some stop
  | reply r => some (reply r)

end ActionTree
