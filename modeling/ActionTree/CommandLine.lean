import ActionTree.CommandLine.Arguments
import ActionTree.Engine

/-!
# ActionTree.CommandLine

Engines by commands.

1. `init` sets up a root, `run` and `batch` answer a request or several,
   `check` reads programs and says which are sound, `instructions` lists what
   nodes may be named;
2. a command prints as it goes, so what was printed before a failure stays;
3. the exit code is zero for success, one for a failure, which is reported, and
   two for arguments that are no command.

A root without settings is an engine with settings of its own.
-/

namespace ActionTree.CommandLine

open Text

/-! ## Commands -/

/-- What is to be done. -/
inductive Command where
  | setUp (depth : Nat) (format : String)
  | run (program : String) (parameters headers : List String) (withHeaders : Bool)
  | batch (file : String)
  | check (programs : List String)
  | instructions
deriving DecidableEq, Repr

/-- A command and the root it is for. -/
structure Invocation where
  root : String
  command : Command
deriving DecidableEq, Repr

/-- The arguments in front of a command. -/
def rootUsage : Usage where
  switches := [⟨"root", some 'r', some .path, false⟩]
  operands := .command

/-- The commands and their arguments. -/
def usages : List (String × Usage) :=
  [("init",
    ⟨[⟨"max-call-depth", none, some (.natural Config.depthLimit), false⟩,
      ⟨"format", none, some .text, false⟩], .none⟩),
   ("run",
    ⟨[⟨"param", some 'p', some .text, true⟩, ⟨"header", some 'H', some .text, true⟩,
      ⟨"include", some 'i', none, false⟩], .one .text⟩),
   ("batch", ⟨[], .one .path⟩),
   ("check", ⟨[], .any⟩),
   ("instructions", ⟨[], .none⟩)]

/-- The command of a name with what was given to it. -/
def Command.ofGiven? (name : String) (g : Given) : Option Command :=
  match name, g.operands with
  | "init", [] =>
    let depth := (g.values "max-call-depth").head?.bind fun s => readNatChars s.toList
    some (.setUp (depth.getD ({} : Config).maxCallDepth) (g.valueOr "format" "json"))
  | "run", [program] =>
    some (.run program (g.values "param") (g.values "header") (g.has "include"))
  | "batch", [file] => some (.batch file)
  | "check", programs => some (.check programs)
  | "instructions", [] => some .instructions
  | _, _ => none

/-- Help on a command, or on all of them. -/
def helpOn (names : List String) : Refusal :=
  match names with
  | [] => .help
  | [name] => if name == "help" || (usages.lookup name).isSome then .help else .misuse
  | _ => .misuse

/-- The invocation in arguments. -/
def Invocation.ofArguments (arguments : List String) : Except Refusal Invocation := do
  let (above, name, rest) ← rootUsage.readAbove arguments
  if name == "help" then throw (helpOn rest)
  else
    match usages.lookup name with
    | none => throw .misuse
    | some u =>
      let g ← u.read rest
      match Command.ofGiven? name g with
      | some command => return ⟨above.valueOr "root" ({} : Config).root, command⟩
      | none => throw .misuse

/-! ## Answers -/

/-- What came of a command: its exit code, what it printed, and the report if it
failed. -/
structure Answer where
  code : Nat
  output : List UInt8 := []
  report : Option String := none
deriving DecidableEq, Repr

/-- What was printed, and how it ended. -/
structure Printed where
  output : List UInt8 := []
  report : Option Report := none

/-- The answer of a command that was understood. -/
def Printed.answer (p : Printed) : Answer :=
  match p.report with
  | none => { code := 0, output := p.output }
  | some r => { code := 1, output := p.output, report := some r.page }

/-- A failure before anything was printed. -/
def Printed.ofReport (r : Report) : Printed := { report := some r }

/-- The bytes of lines. -/
def linesOf (ls : List String) : List UInt8 := ls.flatMap fun l => encode l ++ encode "\n"

/-- The bytes of a response, behind its header lines if they are wanted. -/
def bytesOf (t : Transmission) (withHeaders : Bool) : List UInt8 :=
  (if withHeaders then linesOf (t.lines ++ [""]) else []) ++ t.bytes ++ encode "\n"

/-! ## Setting up -/

/-- The format of a name. -/
def formatOf (name : String) : Except Report Format :=
  match Format.ofValue (.text name) with
  | .ok f => .ok f
  | .error cause => .error ⟨"unknown format '" ++ name ++ "'", [cause]⟩

/-- Sets up a root. -/
def setUp (d : Disk) (token root : String) (depth : Nat) (format : String) : Printed × Disk :=
  let made : Except Report Disk := do
    let f ← formatOf format
    Storage.setUp d token { root := root, maxCallDepth := depth, format := f }
  match made with
  | .ok d => ({ output := linesOf ["Initialized actionflow root at " ++ quoted root] }, d)
  | .error r => (.ofReport r, d)

/-! ## Requests -/

/-- The headers in lines. -/
def headersOf : List String → Except Report Headers
  | [] => .ok []
  | l :: ls =>
    match cut ':' l with
    | none => .error ⟨"header '" ++ l ++ "' is not `Name: value`", []⟩
    | some (name, value) => (headersOf ls).map fun hs => (trim name, trim value) :: hs

/-- The parameters in pairs, added to others. -/
def parametersOf (r : Record) : List String → Except Report Record
  | [] => .ok r
  | p :: ps =>
    match cut '=' p with
    | none => .error ⟨"parameter '" ++ p ++ "' is not name=value", []⟩
    | some (name, value) => parametersOf (r.insert (trim name) (.text value)) ps

/-- The report of a request that used up its fuel. -/
def outOfFuel : Report := ⟨"out of fuel", []⟩

/-- What is printed of a response, and the disk afterwards. -/
def printSent (d : Disk) (withHeaders : Bool) : Option Sent → Printed × Disk
  | some s => ({ output := bytesOf s.transmission withHeaders }, s.engine.disk)
  | none => (.ofReport outOfFuel, d)

/-- Answers a request. -/
def answerRequest (fuel : Nat) (d : Disk) (root program : String)
    (parameters headers : List String) (withHeaders : Bool) : Printed × Disk :=
  let asked : Except Report (Engine × Headers × Record) := do
    let e ← Engine.openAt d root
    let hs ← headersOf headers
    let r ← parametersOf [] parameters
    return (e, hs, r)
  match asked with
  | .ok (e, hs, r) => printSent d withHeaders (e.handle fuel ⟨program, r⟩ hs)
  | .error r => (.ofReport r, d)

/-- The requests in the entries of a batch. -/
def requestsOf : Record → Except Report (List (String × Request))
  | [] => .ok []
  | (key, v) :: r =>
    match Request.ofValue v with
    | .error cause => .error ⟨"Invalid batch entry '" ++ key ++ "'", [cause]⟩
    | .ok request => (requestsOf r).map fun rs => (key, request) :: rs

/-- The entries of a batch in the bytes of a file. -/
def batchOf (bytes : List UInt8) : Except Report Record :=
  match Json.readBytes Json.readRecord bytes with
  | .ok r => .ok r
  | .error cause => .error ⟨"Batch file must be a JSON object", [cause]⟩

/-- Answers a batch. -/
def answerBatch (fuel : Nat) (d : Disk) (root file : String) : Printed × Disk :=
  let asked : Except Report (Engine × List (String × Request)) := do
    let e ← Engine.openAt d root
    match d.read file with
    | .error cause => .error (.ofFile "Failed to read " file cause)
    | .ok bytes =>
      let rs ← requestsOf (← batchOf bytes)
      return (e, rs)
  match asked with
  | .ok (e, rs) => printSent d false (e.handleBatch fuel rs [])
  | .error r => (.ofReport r, d)

/-! ## Checking -/

/-- What is said of each program, and how many are not sound. -/
def checkEach : Engine → List String → List String × Nat
  | _, [] => ([], 0)
  | e, id :: ids =>
    let (loaded, e) := e.load id
    let (lines, failures) := checkEach e ids
    match loaded with
    | .ok p => (("ok      " ++ id ++ " (" ++ toString p.nodes.length ++ " nodes)") :: lines, failures)
    | .error err => (("FAILED  " ++ id ++ ": " ++ err.message) :: lines, failures + 1)

/-- The programs to check: those that are named, or all. -/
def programsToCheck (e : Engine) : List String → Except Report (List String)
  | [] =>
    match listPrograms e.disk (Storage.programFolder e.config.root) with
    | .ok ids => .ok ids
    | .error cause => .error ⟨(Error.file cause).message, [cause.message]⟩
  | ids => .ok ids

/-- Checks programs. -/
def checkPrograms (d : Disk) (root : String) (named : List String) : Printed :=
  let asked : Except Report (Engine × List String) := do
    let e ← Engine.openAt d root
    return (e, ← programsToCheck e named)
  match asked with
  | .error r => .ofReport r
  | .ok (e, ids) =>
    let (lines, failures) := checkEach e ids
    { output := linesOf lines
      report :=
        if failures = 0 then none
        else some ⟨toString failures ++ " of " ++ toString ids.length ++
          " programs failed validation", []⟩ }

/-- Lists the instructions of an engine. -/
def listInstructions (d : Disk) (root : String) : Printed :=
  match Engine.openAt d root with
  | .ok e => { output := linesOf e.registry.names }
  | .error r => .ofReport r

/-! ## Help -/

/-- What help says. -/
def helpPage : List String :=
  ["Usage: [-r|--root FOLDER] COMMAND",
   "",
   "Commands:",
   "  init [--max-call-depth NUMBER] [--format json|xml|xml-debug]",
   "  run PROGRAM [-p|--param NAME=VALUE]... [-H|--header NAME:VALUE]... [-i|--include]",
   "  batch FILE",
   "  check [PROGRAM]...",
   "  instructions",
   "  help [COMMAND]"]

/-! ## Running -/

/-- Carries out an invocation. -/
def perform (fuel : Nat) (token : String) (d : Disk) (i : Invocation) : Printed × Disk :=
  match i.command with
  | .setUp depth format => setUp d token i.root depth format
  | .run program parameters headers withHeaders =>
    answerRequest fuel d i.root program parameters headers withHeaders
  | .batch file => answerBatch fuel d i.root file
  | .check programs => (checkPrograms d i.root programs, d)
  | .instructions => (listInstructions d i.root, d)

/-- The paths that the command in arguments may look at. -/
def pathsOf (arguments : List String) : List String :=
  match Invocation.ofArguments arguments with
  | .ok ⟨root, .batch file⟩ => [root, file]
  | .ok i => [i.root]
  | .error _ => []

/-- Runs the command in arguments. -/
def run (fuel : Nat) (token : String) (d : Disk) (arguments : List String) : Answer × Disk :=
  match Invocation.ofArguments arguments with
  | .error .misuse => ({ code := 2 }, d)
  | .error .help => ({ code := 0, output := linesOf helpPage }, d)
  | .ok i =>
    let (p, d) := perform fuel token d i
    (p.answer, d)

end ActionTree.CommandLine
