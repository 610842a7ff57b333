import ActionTree.Config
import ActionTree.Files
import ActionTree.Json.Bytes

/-!
# ActionTree.Storage

The folder of an engine: its settings, its programs, its stored responses.

1. everything lies below one root, at paths of its own;
2. a file is replaced as a whole: what is new is written beside it and then takes
   its place, so whoever reads sees the old file or the new one;
3. a failure is reported with what was attempted and what came in the way.

The new file beside the old one has a *token* in its name, which whoever writes
chooses afresh.
-/

namespace ActionTree

open Text

/-! ## Reports -/

/-- What went wrong in words: what was attempted, and then the causes, each the
cause of the one before. -/
structure Report where
  message : String
  causes : List String := []
deriving DecidableEq, Repr

namespace Report

/-- The report on one line. -/
def line (r : Report) : String := ": ".intercalate (r.message :: r.causes)

/-- The causes on lines of their own, numbered from `n` on. -/
def numbered : (n : Nat) → List String → String
  | _, [] => ""
  | n, c :: cs => "\n    " ++ toString n ++ ": " ++ c ++ numbered (n + 1) cs

/-- The report on several lines. -/
def page (r : Report) : String :=
  "Error: " ++ r.message ++
    match r.causes with
    | [] => ""
    | [c] => "\n\nCaused by:\n    " ++ c
    | cs => "\n\nCaused by:" ++ numbered 0 cs

/-- The report of an attempt at a path that the file system refused. -/
def ofFile (attempt path : String) (e : FileError) : Report :=
  ⟨attempt ++ quoted path, [e.message]⟩

end Report

/-! ## Paths -/

namespace Storage

/-- Where the settings are. -/
def configPath (root : String) : String := joinPath root "config.json"

/-- Where the programs are. -/
def programFolder (root : String) : String := joinPath root "programs"

/-- Where the stored responses are. -/
def cacheFolder (root : String) : String := joinPath root "cache"

/-! ## Writing -/

/-- Where the new settings are written before they take their place. -/
def draftPath (root token : String) : String := joinPath root ("config." ++ token ++ ".tmp")

/-- The disk with a folder made. -/
def makeFolder (d : Disk) (path : String) : Except Report Disk :=
  match d.makeFolders path with
  | .ok d => .ok d
  | .error e => .error (.ofFile "Failed to create directory: " path e)

/-- The disk with a file written beside `path` and moved there. -/
def replaceFile (d : Disk) (path draft : String) (bytes : List UInt8) : Except Report Disk :=
  match d.write draft bytes none with
  | .error e => .error (.ofFile "Failed to create temp file: " draft e)
  | .ok _ =>
    match d.write path bytes none with
    | .error e =>
      .error ⟨"Failed to rename " ++ quoted draft ++ " to " ++ quoted path, [e.message]⟩
    | .ok d => .ok d

/-- The disk with the folders of an engine. -/
def makeLayout (d : Disk) (root : String) : Except Report Disk := do
  let d ← makeFolder d root
  let d ← makeFolder d (programFolder root)
  makeFolder d (cacheFolder root)

/-- The disk with the settings of an engine written. -/
def writeConfig (d : Disk) (token : String) (c : Config) : Except Report Disk :=
  replaceFile d (configPath c.root) (draftPath c.root token) (encode c.write)

/-- The disk with a new engine on it. -/
def setUp (d : Disk) (token : String) (c : Config) : Except Report Disk := do
  let d ← makeLayout d c.root
  writeConfig d token c

/-! ## Reading -/

/-- The settings of the engine at a root. -/
def loadConfig (d : Disk) (root : String) : Except Report Config :=
  match d.read (configPath root) with
  | .error e => .error (.ofFile "Failed to read file: " (configPath root) e)
  | .ok bytes =>
    match Json.readBytes (Config.read root) bytes with
    | .ok c => .ok c
    | .error cause => .error ⟨"Failed to deserialize config", [cause]⟩

end Storage

end ActionTree
