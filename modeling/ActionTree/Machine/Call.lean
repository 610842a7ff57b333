import ActionTree.Machine.Attribute

/-!
# ActionTree.Machine.Call

Sub-programs.

1. `evaluate` and a *shared* call run a program in the caller's own scope; any
   other call runs it in a scope that has nothing of the caller's but the
   parameters;
2. what an isolated call leaves in fields whose names bear the export marker is
   written into the caller's fields, also when the call failed;
3. no call lets a loop signal out.  A reply goes through unless the call keeps it
   as a field;
4. at most so many sub-programs are open at once as the settings say.
-/

namespace ActionTree

open Text

namespace Run

/-! ## The program to run -/

/-- The status of replies that stand in for programs that are missing. -/
def missingStatus : Nat := 400

/-- The program that a node names, or how to go on without it. -/
def target (h : Host) (n : Node) : Run (Except Flow Program) := do
  let src ← ask (h.attr n "src")
  let c ← scope
  match ← load h (resolveReference c.base src) with
  | .ok p => return .ok p
  | .error (.missingProgram id) =>
    if ← ask (h.flag n "inhibit") then return .error .next
    else
      return .error (.reply (.envelope
        (Envelope.failure missingStatus (Error.missingProgram id).message)))
  | .error e => fail e

/-- The error of one sub-program too many. -/
def tooDeep (c : Context) (limit : Nat) : Error := .recursionLimit (c.depth + 1) limit

/-- The nodes of a sub-program run in a scope, and `after` done to the scope and
the event put down when it is left, however that is. -/
def inside (exec : Node → Run Flow) (p : Program) (c : Context) (after : Context → Context) :
    Run Flow := do
  setScope c
  record (.opened p.id)
  closing (sequence exec p.nodes) fun _ s =>
    { s with scope := after s.scope, journal := .closed p.id :: s.journal }

/-! ## Shared scopes -/

/-- Runs a program in the caller's scope. -/
def runShared (h : Host) (exec : Node → Run Flow) (p : Program) : Run Flow := do
  let c ← scope
  match c.enter? h.config.maxCallDepth with
  | none => fail (tooDeep c h.config.maxCallDepth)
  | some inner =>
    inside exec p { inner with base := some p.id } fun last =>
      { last.leave with base := c.base }

/-- Runs a program as if its nodes stood here. -/
def evaluate (h : Host) (exec : Node → Run Flow) (n : Node) : Run Flow := do
  match ← target h n with
  | .ok p => runShared h exec p
  | .error flow => return flow

end Run

/-! ## Isolated scopes -/

/-- The form fields that a call passes on. -/
def passedFields (form : Record) (names : List String) : Record :=
  names.foldl (fun r name =>
    match Record.get? form name with
    | some v => Record.insert r name v
    | none => r) []

/-- The value of a parameter. -/
def Host.parameter (h : Host) (n : Node) (c : Context) : Except Error (String × Value) :=
  match n.field "name" with
  | .error e => .error e
  | .ok name => (h.attrOrText? n "value" c).map fun s => (name, .text (s.getD ""))

/-- Parameters added to those there are. -/
def Host.addParameters (h : Host) (c : Context) : Record → List Node → Except Error Record
  | r, [] => .ok r
  | r, n :: ns =>
    match h.parameter n c with
    | .error e => .error e
    | .ok (name, v) => h.addParameters c (Record.insert r name v) ns

/-- The parameters of a call. -/
def Host.parameters (h : Host) (n : Node) (c : Context) : Except Error Record :=
  match h.attr? n "pass" c with
  | .error e => .error e
  | .ok names =>
    h.addParameters c (passedFields c.form ((pieces ',' (names.getD "")).filterMap trimmed?))
      (n.children.filter fun child => child.name == "param")

namespace Run

/-- Runs a program in a scope of its own. -/
def runIsolated (h : Host) (exec : Node → Run Flow) (n : Node) (p : Program) : Run Flow := do
  let parameters ← ask (h.parameters n)
  let caller ← scope
  match (caller.child parameters p.id).enter? h.config.maxCallDepth with
  | none => fail (tooDeep caller h.config.maxCallDepth)
  | some child =>
    inside exec p child fun last =>
      caller.importFields (last.exports h.config.exportMarker)

/-! ## Calls -/

/-- What a call lets through of the flow of its program. -/
def passOn (n : Node) (passControl : Bool) (flow : Flow) : Run Flow :=
  match flow with
  | .reply r =>
    if passControl then pure (.reply r)
    else do
      updateScope fun c => c.set ((n.name? "ref").getD "result") r.toValue
      return .next
  | .skip | .leave => pure .next
  | .next => pure .next
  | .stop => pure .stop

/-- Runs the program of a call, in the caller's scope or in one of its own. -/
def callee (h : Host) (exec : Node → Run Flow) (n : Node) (p : Program) (shared : Bool) :
    Run Flow :=
  if shared then runShared h exec p else runIsolated h exec n p

/-- Runs a program as a call. -/
def call (h : Host) (exec : Node → Run Flow) (n : Node) : Run Flow := do
  match ← target h n with
  | .error flow => return flow
  | .ok p => do
    let passControl ← ask (h.flagOr n "passControl" true)
    let shared ← ask (h.flag n "shared")
    let flow ← callee h exec n p shared
    passOn n passControl flow

end Run

end ActionTree
