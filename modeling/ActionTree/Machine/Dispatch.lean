import ActionTree.Machine.Branch
import ActionTree.Machine.Call
import ActionTree.Machine.Control
import ActionTree.Machine.Loop

/-!
# ActionTree.Machine.Dispatch

From a node to what it does.

1. a node is executed by the instruction of its name; a name that the registry
   does not know is an error;
2. every instruction is given `exec`, which executes a node further in with less
   fuel.  So fuel bounds how deeply nodes stand inside one another, sub-programs
   included, and the rounds of the two loops that nothing else bounds;
3. the journal shows the beginning and the end of every node, of one with an
   unknown name too.

`execute` is the only recursion: what an instruction does with `exec` is its own
affair.
-/

namespace ActionTree

namespace Run

/-- What an instruction does. -/
def perform (h : Host) (fuel : Nat) (exec : Node → Run Flow) (i : Instruction) (n : Node) :
    Run Flow :=
  match i with
  | .assign => assign h n
  | .unset => unset h n
  | .push => push h n
  | .skip => signal n .skip
  | .leave => signal n .leave
  | .stop => signal n .stop
  | .reply => reply h n
  | .fail => failWith h n
  | .scalar => writeRows h n firstValue
  | .assoc => writeRows h n firstRow
  | .query => writeRows h n allRows
  | .user => user h n
  | .require => require h n
  | .header => header h n
  | .write => write h n
  | .log => log h n
  | .format => format h n
  | .compress => compress h n
  | .cache => cache h n
  | .notModified => notModified h n
  | .block => block h exec n
  | .switch => switch h exec n
  | .loop => loop h fuel exec n
  | .traverse => traverse h exec n
  | .stackLoop => stackLoop h fuel exec n
  | .reader => reader h exec n
  | .evaluate => evaluate h exec n
  | .call => call h exec n
  | .marker => pure .next

/-- What a node does: its instruction is looked up and performed. -/
def dispatch (h : Host) (fuel : Nat) (exec : Node → Run Flow) (n : Node) : Run Flow := do
  record (.began n.name (← scope).depth)
  match h.registry.find? n.name with
  | none => fail (.unknownInstruction n.name)
  | some i => perform h fuel exec i n

/-- What a node does, with its end put down. -/
def execute (h : Host) : (fuel : Nat) → Node → Run Flow
  | 0, _ => throw .outOfFuel
  | fuel + 1, n =>
    closing (dispatch h fuel (execute h fuel) n) fun result s =>
      { s with journal := .ended n.name result :: s.journal }

/-- What nodes do, one after another. -/
def executeAll (h : Host) (fuel : Nat) (nodes : List Node) : Run Flow :=
  sequence (execute h fuel) nodes

end Run

end ActionTree
