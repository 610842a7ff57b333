import ActionTree.CommandLine

/-!
# ActionTree.Main

The program.

1. what lies at the paths that a command may look at is read into a disk;
2. the command runs on that disk;
3. what it wrote is written back, each file beside its place first, so whoever
   reads sees the old file or the new one.

What was read has the date of its last change, and what the command wrote has none,
so the two are told apart by their stamps.
-/

namespace ActionTree.Main

/-! ## Reading -/

/-- A path as the file system takes it. -/
def placeOf (path : String) := (⟨path, ""⟩ : IO.FS.DirEntry).root

/-- What the file system knows of a path, if anything is there. -/
def metadataOf (path : String) : IO (Option IO.FS.Metadata) := do
  try return some (← (placeOf path).metadata)
  catch _ => return none

/-- The disk with everything at a path. -/
partial def loadTree (d : Disk) (path : String) : IO Disk := do
  match ← metadataOf path with
  | none => return d
  | some m =>
    match m.type with
    | .dir =>
      let d := (d.makeFolders path).toOption.getD d
      (← (placeOf path).readDir).foldlM (fun d e => loadTree d (joinPath path e.fileName)) d
    | _ =>
      let bytes ← IO.FS.readBinFile path
      return (d.write path bytes.toList (some m.modified.sec)).toOption.getD d

/-- The disk with everything where names lead from a path that is read already. -/
def loadAlong (d : Disk) (path : String) : List String → IO Disk
  | [] => return d
  | [name] => loadTree d (joinPath path name)
  | name :: names => do
    let path := joinPath path name
    let m ← metadataOf path
    match m.map IO.FS.Metadata.type with
    | some .dir => loadAlong ((d.makeFolders path).toOption.getD d) path names
    | _ => loadTree d path

/-- The disk with everything at some paths; a path of no names is the folder that the
program runs in. -/
def load (d : Disk) (paths : List String) : IO Disk :=
  paths.foldlM (fun d path =>
    match pathNames path with
    | [] => loadTree d "."
    | names => loadAlong d "" names) d

/-! ## Writing -/

mutual

/-- Writes what is new in an entry at a path. -/
def saveEntry (token path : String) : Entry → IO Unit
  | .file bytes (.written _) => do
    let draft := path ++ "." ++ token ++ ".tmp"
    IO.FS.writeBinFile draft ⟨bytes.toArray⟩
    IO.FS.rename draft path
  | .file _ (.dated _) => return ()
  | .folder es => do
    IO.FS.createDirAll path
    saveFolder token path es
termination_by structural e => e

/-- Writes what is new in a folder at a path. -/
def saveFolder (token path : String) : List (String × Entry) → IO Unit
  | [] => return ()
  | (name, e) :: es => do
    saveEntry token (joinPath path name) e
    saveFolder token path es
termination_by structural es => es

end

/-! ## Running -/

/-- The present second, as the file system tells it. -/
def presentSecond : IO Int := do
  let (_, place) ← IO.FS.createTempFile
  let m ← place.metadata
  IO.FS.removeFile place
  return m.modified.sec

/-- The greatest nesting of what a program runs. -/
def nestingLimit : Nat := 1000000000

/-- Runs the command in arguments on the files that are there. -/
def run (arguments : List String) : IO UInt32 := do
  let token := toString (← IO.monoNanosNow)
  let d ← load { now := ← presentSecond } (CommandLine.pathsOf arguments)
  let (answer, d) := CommandLine.run nestingLimit token d arguments
  saveFolder token "" d.top
  let out ← IO.getStdout
  out.write ⟨answer.output.toArray⟩
  out.flush
  let complaint := match answer.report with
    | some report => report ++ "\n"
    | none => if answer.code = 2 then "\n".intercalate CommandLine.helpPage ++ "\n" else ""
  IO.eprint complaint
  return answer.code.toUInt32

end ActionTree.Main

/-- Runs the command in the arguments. -/
def main (arguments : List String) : IO UInt32 := ActionTree.Main.run arguments
