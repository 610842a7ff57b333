import ActionTree.Config
import ActionTree.Flow
import ActionTree.Program.Cache
import ActionTree.Response
import ActionTree.Services

/-!
# ActionTree.Machine.Run

What a running program sees, changes and leaves behind.

1. a *host* is what stays the same during a request: the settings of the engine,
   the instructions, the collaborators, the programs and stored responses there
   are, and the headers that the client sent;
2. a *state* is what instructions change: the scope, the settings of the
   response, the programs that were read, and a journal of what happened;
3. a *run* goes from state to state and ends with a value or a failure.  A failure
   is an error, or that the *fuel* is used up: then nothing is known of the
   program, and no program can notice.

The journal is only ever added to.  Its newest event comes first.
-/

namespace ActionTree

/-! ## The journal -/

/-- How much a log line matters. -/
inductive Severity where
  | error
  | warning
  | info
  | debug
  | trace
deriving DecidableEq, Repr

/-- The name of a severity. -/
def Severity.name : Severity → String
  | error => "error"
  | warning => "warn"
  | info => "info"
  | debug => "debug"
  | trace => "trace"

/-- Why a run did not end with a value. -/
inductive Failure where
  | error (e : Error)
  | outOfFuel

/-- What happened. -/
inductive Event where
  /-- A node of a name was begun, with so many sub-programs open. -/
  | began (instruction : String) (depth : Nat)
  /-- A node of a name has ended. -/
  | ended (instruction : String) (result : Except Failure Flow)
  /-- A sub-program was entered. -/
  | opened (program : String)
  /-- A sub-program was left. -/
  | closed (program : String)
  /-- A program wrote to the log. -/
  | logged (severity : Severity) (message program : String)
  /-- The database carried out a statement. -/
  | queried (statement : String)
  /-- The response stored under an id is to be replayed. -/
  | replayed (id : String)

/-- What happened, the newest first. -/
abbrev Journal := List Event

namespace Journal

/-- The log lines, the oldest first. -/
def log (j : Journal) : List (Severity × String × String) :=
  j.reverse.filterMap fun
    | .logged severity message program => some (severity, message, program)
    | _ => none

/-- The statements that the database carried out, the oldest first. -/
def statements (j : Journal) : List String :=
  j.reverse.filterMap fun
    | .queried statement => some statement
    | _ => none

/-- How many nodes of a name were begun. -/
def count (j : Journal) (instruction : String) : Nat :=
  j.countP fun
    | .began name _ => name == instruction
    | _ => false

end Journal

/-! ## Hosts and states -/

/-- What stays the same during a request. -/
structure Host where
  config : Config
  registry : Registry
  services : Services
  source : Source
  /-- The response stored under an id, if it is younger than so many seconds. -/
  stored : String → Nat → Option StoredResponse
  request : Headers

/-- What instructions change. -/
structure State where
  scope : Context
  output : Settings
  programs : ProgramCache := []
  journal : Journal := []

/-- A computation from state to state. -/
abbrev Run (α : Type) := ExceptT Failure (StateM State) α

namespace Run

/-! ## Primitives -/

/-- The scope. -/
def scope : Run Context := do return (← get).scope

/-- The scope put in place of the present one. -/
def setScope (c : Context) : Run Unit := modify fun s => { s with scope := c }

/-- The scope changed. -/
def updateScope (f : Context → Context) : Run Unit :=
  modify fun s => { s with scope := f s.scope }

/-- The settings of the response. -/
def output : Run Settings := do return (← get).output

/-- The settings of the response changed. -/
def updateOutput (f : Settings → Settings) : Run Unit :=
  modify fun s => { s with output := f s.output }

/-- An event added to the journal. -/
def record (e : Event) : Run Unit := modify fun s => { s with journal := e :: s.journal }

/-- An error. -/
def fail {α : Type} (e : Error) : Run α := throw (.error e)

/-- The value of a computation that may have failed. -/
def ofExcept {α : Type} : Except Error α → Run α
  | .ok a => pure a
  | .error e => fail e

/-- What a question about the scope is answered with. -/
def ask {α : Type} (question : Context → Except Error α) : Run α := do
  ofExcept (question (← scope))

/-- A run that is begun in any case ends well: its failure becomes its value. -/
def attempt {α : Type} (x : Run α) : Run (Except Failure α) := fun s =>
  let (result, s) := x s
  (.ok result, s)

/-- A run with its last state changed, however it ends. -/
def closing {α : Type} (x : Run α) (after : Except Failure α → State → State) : Run α := fun s =>
  let (result, s) := x s
  (result, after result s)

/-- A body that has the form and the position put back behind it, however it
ends. -/
def restoring {α : Type} (body : Snapshot → Run α) : Run α := do
  let saved := (← scope).save
  closing (body saved) fun _ s => { s with scope := s.scope.restore saved }

/-! ## Sequences -/

/-- Nodes one after another, up to the first that does not let the program go
on. -/
def sequence (exec : Node → Run Flow) : List Node → Run Flow
  | [] => pure .next
  | n :: ns => do
    match ← exec n with
    | .next => sequence exec ns
    | flow => pure flow

/-! ## Programs -/

/-- The program of an id, read or kept from before. -/
def load (h : Host) (id : String) : Run (Except Error Program) := do
  let s ← get
  let (result, programs) := s.programs.load h.source h.registry id
  set { s with programs := programs }
  return result

end Run

end ActionTree
