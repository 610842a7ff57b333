import ActionTree.Machine.Attribute
import ActionTree.Pattern

/-!
# ActionTree.Machine.Branch

Blocks and switches.

1. a block is entered if its condition holds and the client has what the block
   requires and nothing that it rules out;
2. an error of a block may be *inhibited*, which keeps it as a field, or replaced
   by a message for the client.  A fatal error is neither;
3. a switch compares its subject with its branches in order and takes the first
   that fits.
-/

namespace ActionTree

open Text Run

/-! ## Blocks -/

/-- Whether the privileges that an attribute asks for are held; an attribute that
is not there asks for nothing. -/
def Host.privileged? (h : Host) (n : Node) (key : String) (c : Context) :
    Except Error (Option Bool) :=
  (h.attr? n key c).map fun s => s.map h.services.privileges.holds

/-- Whether a block is entered. -/
def Host.enters (h : Host) (n : Node) (c : Context) : Except Error Bool :=
  match n.condition "condition" c with
  | .error e => .error e
  | .ok false => .ok false
  | .ok true =>
    match h.privileged? n "requires" c with
    | .error e => .error e
    | .ok (some false) => .ok false
    | .ok _ =>
      match h.privileged? n "not-requires" c with
      | .error e => .error e
      | .ok denied => .ok (denied != some true)

/-- An error as a value. -/
def Error.toValue (e : Error) : Value :=
  .record [("status", .nat e.status), ("message", .text e.publicMessage)]

/-- The status of the messages that stand in for errors. -/
def replacementStatus : Nat := 409

namespace Run

/-- What becomes of an error of a block. -/
def recover (h : Host) (n : Node) (e : Error) : Run Flow := do
  if ← ask (h.flag n "inhibit") then
    updateScope fun c => c.set ((n.name? "ref").getD "error") e.toValue
    return .next
  else
    match ← ask (h.attr? n "failureMsg") with
    | some message => return .reply (.envelope (Envelope.failure replacementStatus message))
    | none => fail e

/-- A block. -/
def block (h : Host) (exec : Node → Run Flow) (n : Node) : Run Flow := do
  if ← ask (h.enters n) then
    match ← attempt (sequence exec n.children) with
    | .ok flow => return flow
    | .error (.error e) => if e.isFatal then fail e else recover h n e
    | .error .outOfFuel => throw .outOfFuel
  else return .next

end Run

/-! ## Switches -/

/-- Whether two texts are one number. -/
def sameNumber (a b : String) : Bool :=
  match Double.read? (trim a), Double.read? (trim b) with
  | some x, some y => Double.compare? x y == some .eq
  | _, _ => false

/-- Whether a pattern occurs in the subject. -/
def Host.matches (h : Host) (branch : Node) (subject : String) (c : Context) :
    Except Error Bool :=
  match h.attr branch "pattern" c with
  | .error e => .error e
  | .ok source =>
    match Pattern.read source with
    | .ok p => .ok (p.occursIn subject)
    | .error message => .error (branch.badAttribute "pattern" message)

/-- Whether a branch fits the subject. -/
def Host.fits (h : Host) (branch : Node) (subject : String) (c : Context) :
    Except Error Bool :=
  match branch.name with
  | "true" => .ok (Text.truthy subject)
  | "false" => .ok (!Text.truthy subject)
  | "number" => (h.attr branch "value" c).map fun expected => sameNumber subject expected
  | "string" => (h.attr? branch "value" c).map fun expected => expected.getD "" == subject
  | "expr" =>
    if ((branch.attr? "test").bind trimmed?).isSome then branch.condition "test" c
    else .error (branch.badAttribute "test" "is required")
  | "match" => h.matches branch subject c
  | "default" => .ok true
  | other => .error (.unknownInstruction ("switch/" ++ other))

/-- The first branch that fits the subject. -/
def Host.select (h : Host) (subject : String) (c : Context) :
    List Node → Except Error (Option Node)
  | [] => .ok none
  | branch :: rest =>
    match h.fits branch subject c with
    | .error e => .error e
    | .ok true => .ok (some branch)
    | .ok false => h.select subject c rest

namespace Run

/-- A switch. -/
def switch (h : Host) (exec : Node → Run Flow) (n : Node) : Run Flow := do
  let subject ← ask (h.attr? n "subject")
  match ← ask (fun c => h.select (subject.getD "") c n.children) with
  | some branch => sequence exec branch.children
  | none => return .next

end Run

end ActionTree
