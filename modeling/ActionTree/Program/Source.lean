import ActionTree.Files
import ActionTree.Markup.Document
import ActionTree.Program.Reference

/-!
# ActionTree.Program.Source

Where programs come from.

1. a source says of every id when its program was last changed, and what its
   nodes are; that there is no such program is an error of its own;
2. a *library* holds programs in memory, and counts its insertions to tell
   changes apart;
3. a folder of documents holds one file per program.

Listing a folder gives the id of every document in it, in the order of their
code points.
-/

namespace ActionTree

open Text

/-- A source of programs. -/
structure Source where
  /-- When a program was last changed. -/
  stamp : String → Except Error Stamp
  /-- The nodes of a program. -/
  nodes : String → Except Error (List Node)

/-! ## Libraries -/

/-- Programs held in memory, each with the number of the insertion that brought
it. -/
structure Library where
  shelf : List (String × Nat × List Node) := []
  insertions : Nat := 0

namespace Library

/-- The program of an id. -/
def get? (l : Library) (id : String) : Option (Nat × List Node) := l.shelf.lookup id

/-- The library with a program added or replaced. -/
def insert (l : Library) (id : String) (nodes : List Node) : Library :=
  let number := l.insertions + 1
  { shelf := (id, number, nodes) :: l.shelf.filter fun e => e.1 != id
    insertions := number }

/-- The library with a document added or replaced. -/
def insertDocument (l : Library) (id document : String) : Except Error Library :=
  match Markup.readDocument document with
  | .ok nodes => .ok (l.insert id nodes)
  | .error fault => .error (.document fault)

/-- The library as a source. -/
def source (l : Library) : Source where
  stamp id :=
    match l.get? id with
    | some (number, _) => .ok (.written number)
    | none => .error (.missingProgram id)
  nodes id :=
    match l.get? id with
    | some (_, nodes) => .ok nodes
    | none => .error (.missingProgram id)

end Library

/-! ## Folders of documents -/

/-- The error of a document that could not be reached. -/
def documentError (id : String) : FileError → Error
  | .notFound => .missingProgram id
  | e => .file e

/-- The nodes that the bytes of a document hold. -/
def readProgram (bytes : List UInt8) : Except Error (List Node) :=
  match decode? bytes with
  | none => .error (.file .notText)
  | some text =>
    match Markup.readDocument text with
    | .ok nodes => .ok nodes
    | .error fault => .error (.document fault)

/-- What is where the document of a program should be. -/
def findDocument (d : Disk) (folder id : String) : Except Error Entry :=
  match documentPath? id with
  | none => .error (.missingProgram id)
  | some path =>
    match d.find (joinPath folder path) with
    | .ok e => .ok e
    | .error e => .error (documentError id e)

/-- A folder of documents as a source. -/
def folderSource (d : Disk) (folder : String) : Source where
  stamp id :=
    match findDocument d folder id with
    | .ok (.file _ stamp) => .ok stamp
    | .ok (.folder _) => .error (.missingProgram id)
    | .error e => .error e
  nodes id :=
    match findDocument d folder id with
    | .ok (.file bytes _) => readProgram bytes
    | .ok (.folder _) => .error (.file .isDirectory)
    | .error e => .error e

/-! ## Listing -/

/-- The id of a document: the folders that it is in and its stem.  A stem of one
dot takes in the dot that separates it from the ending. -/
def idOf (folders : List String) (stem : String) : String :=
  "/".intercalate (folders ++ [if stem = "." then ".." else stem])

mutual

/-- The ids of the documents in an entry of a name. -/
def idsInEntry (folders : List String) (name : String) : Entry → List String
  | .file _ _ =>
    match documentStem? name with
    | some stem => [idOf folders stem]
    | none => []
  | .folder es => idsInFolder (folders ++ [name]) es
termination_by structural e => e

/-- The ids of the documents in a folder. -/
def idsInFolder (folders : List String) : List (String × Entry) → List String
  | [] => []
  | (name, e) :: es => idsInEntry folders name e ++ idsInFolder folders es
termination_by structural es => es

end

/-- The ids of all documents in a folder, sorted. -/
def listPrograms (d : Disk) (folder : String) : Except FileError (List String) :=
  match d.find folder with
  | .ok (.folder es) => .ok ((idsInFolder [] es).mergeSort fun a b => a ≤ b)
  | .ok (.file _ _) => .error .notDirectory
  | .error e => .error e

end ActionTree
