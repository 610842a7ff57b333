import ActionTree.Machine.Dispatch
import ActionTree.Request
import ActionTree.Response.Cache
import ActionTree.Response.Coding

/-!
# ActionTree.Engine

What all requests share, and how a request is answered.

1. an engine has settings, instructions, collaborators, a place that programs come
   from, the programs read so far, and a disk with its stored responses;
2. a request runs a program with parameters as its form.  Errors become envelopes,
   so every request has a response;
3. a program whose first node asks for a stored response is not begun at all if
   there is one;
4. a batch runs several requests one after another, each with a scope of its own,
   and answers with a record of their envelopes.  Nothing of a batch is stored.

A request that uses up its fuel has no response, and leaves the engine as it was.
-/

namespace ActionTree

open Run

/-! ## Engines -/

/-- Where the programs of an engine come from. -/
inductive Origin where
  | library (l : Library)
  /-- The program folder below the root. -/
  | folder

/-- What all requests share. -/
structure Engine where
  config : Config := {}
  registry : Registry := {}
  services : Services := {}
  origin : Origin := .folder
  programs : ProgramCache := []
  disk : Disk := {}

namespace Engine

/-- Where the programs come from. -/
def source (e : Engine) : Source :=
  match e.origin with
  | .library l => l.source
  | .folder => folderSource e.disk (Storage.programFolder e.config.root)

/-- The response stored under an id, if it is younger than so many seconds. -/
def probe (e : Engine) (id : String) (seconds : Nat) : Option StoredResponse :=
  ResponseCache.probe e.disk (Storage.cacheFolder e.config.root) id seconds

/-- The engine with a response stored under an id. -/
def store (e : Engine) (id : String) (r : StoredResponse) : Engine :=
  { e with disk := ResponseCache.store e.disk (Storage.cacheFolder e.config.root) id r }

/-- What stays the same during a request with given headers. -/
def host (e : Engine) (request : Headers) : Host where
  config := e.config
  registry := e.registry
  services := e.services
  source := e.source
  stored := e.probe
  request := request

/-- The program of an id, read or kept from before. -/
def load (e : Engine) (id : String) : Except Error Program × Engine :=
  let (result, programs) := e.programs.load e.source e.registry id
  (result, { e with programs := programs })

/-- The engine without the program that is kept under an id. -/
def invalidate (e : Engine) (id : String) : Engine :=
  { e with programs := e.programs.erase id }

/-- The state that a request starts with. -/
def initialState (e : Engine) (c : Context) (batch : Bool) : State where
  scope := c
  output := { format := e.config.format, batch := batch }
  programs := e.programs

/-- Runs nodes in a scope. -/
def executeNodes (e : Engine) (fuel : Nat) (nodes : List Node) (c : Context)
    (request : Headers) : Except Failure Flow × State :=
  executeAll (e.host request) fuel nodes (e.initialState c false)

end Engine

/-! ## Programs -/

namespace Run

/-- Runs the nodes of a program, the first of which asks for a stored response:
it is looked for before anything is begun. -/
def executeBehindCache (h : Host) (fuel : Nat) (first : Node) (rest : List Node) : Run Flow := do
  let d ← ask (h.directive first)
  match ← consultCache h d with
  | .next => executeAll h fuel rest
  | flow => return flow

/-- Runs the nodes of a program. -/
def executeNodes (h : Host) (fuel : Nat) (nodes : List Node) : Run Flow := do
  match nodes with
  | [] => executeAll h fuel []
  | first :: rest =>
    if first.name == "cache" && !(← output).batch then executeBehindCache h fuel first rest
    else executeAll h fuel (first :: rest)

/-- Runs the program of an id. -/
def executeProgram (h : Host) (fuel : Nat) (id : String) : Run Flow := do
  match ← load h id with
  | .error e => fail e
  | .ok p => do
    updateScope fun c => { c with base := some p.id }
    executeNodes h fuel p.nodes

end Run

/-! ## Requests -/

/-- What a request came to: the response, the engine afterwards, and the journal. -/
structure Finished where
  response : Response
  engine : Engine
  journal : Journal

namespace Engine

/-- Runs a program and puts its response together. -/
def run (e : Engine) (fuel : Nat) (r : Request) (request : Headers) (batch : Bool) :
    Option Finished :=
  let h := e.host request
  let s := e.initialState (Context.ofParameters r.parameters) batch
  match executeProgram h fuel r.program s with
  | (.ok flow, s) =>
    some ⟨Response.assemble flow s.output, { e with programs := s.programs }, s.journal⟩
  | (.error (.error err), s) =>
    some ⟨Response.failure err s.output e.config.debug, { e with programs := s.programs },
      s.journal⟩
  | (.error .outOfFuel, _) => none

/-- The transmission of a response, and the engine with the response stored if it
is to be. -/
def respond (e : Engine) (r : Response) (request : Headers) : Transmission × Engine :=
  (Transmission.ofResponse r request,
    match r.storeUnder? with
    | some id => e.store id r.toStored
    | none => e)

/-! ## Batches -/

/-- The results of a batch so far, the engine, and the journal. -/
structure BatchState where
  results : Record
  engine : Engine
  journal : Journal

/-- Runs the requests of a batch in order. -/
def runEach (fuel : Nat) (request : Headers) :
    BatchState → List (String × Request) → Option BatchState
  | b, [] => some b
  | b, (key, r) :: rs =>
    match b.engine.run fuel r request true with
    | none => none
    | some f =>
      runEach fuel request
        ⟨Record.insert b.results key f.response.outcome.toEnvelope.toValue, f.engine,
          f.journal ++ b.journal⟩ rs

/-- Runs a batch and puts its response together. -/
def runBatch (e : Engine) (fuel : Nat) (rs : List (String × Request)) (request : Headers) :
    Option Finished :=
  match runEach fuel request ⟨[], e, []⟩ rs with
  | none => none
  | some b =>
    some ⟨⟨.envelope (Envelope.ok (.record b.results)),
      { format := e.config.format, batch := true }⟩, b.engine, b.journal⟩

end Engine

/-- What a client is sent, the engine afterwards, and the journal. -/
structure Sent where
  transmission : Transmission
  engine : Engine
  journal : Journal

/-- The response of a finished request, sent. -/
def Finished.send (f : Finished) (request : Headers) : Sent :=
  let (t, e) := f.engine.respond f.response request
  ⟨t, e, f.journal⟩

namespace Engine

/-- Answers a request. -/
def handle (e : Engine) (fuel : Nat) (r : Request) (request : Headers) : Option Sent :=
  (e.run fuel r request false).map fun f => f.send request

/-- Answers a batch. -/
def handleBatch (e : Engine) (fuel : Nat) (rs : List (String × Request)) (request : Headers) :
    Option Sent :=
  (e.runBatch fuel rs request).map fun f => f.send request

/-! ## Engines on a disk -/

/-- The engine at a root that was set up before. -/
def loadFrom (d : Disk) (root : String) : Except Report Engine :=
  (Storage.loadConfig d root).map fun c => { config := c, disk := d }

/-- The engine at a root, with the settings there or, if there are none, with
settings of its own. -/
def openAt (d : Disk) (root : String) : Except Report Engine :=
  if d.has (Storage.configPath root) then loadFrom d root
  else .ok { config := { root := root }, disk := d }

end Engine

end ActionTree
