import ActionTree.Error
import ActionTree.Text.Split
import ActionTree.Text.Utf8

/-!
# ActionTree.Files

A tree of folders and files, and the few things an engine does with it.

1. a file is its bytes and the stamp of its last change; a folder is its entries
   under their names;
2. a path is looked up name by name from the top, and the first name that cannot
   be followed says what is wrong: it is too long, nothing is there, or a file
   stands where a folder should;
3. the names `.` and `..` stand for the folder that the names before them lead to and
   for the one above it, so those names must lead to a folder;
4. writing needs the folder to be there and replaces a file, never a folder;
5. a path that ends with a slash leads to a folder or nowhere.

Every write of a disk takes a stamp of its own unless a date is given, so a file
that was written again never has the stamp it had before.
-/

namespace ActionTree

open Text

/-! ## Entries -/

/-- When something was last changed: by the write of a number, or at a second of
the calendar. -/
inductive Stamp where
  | written (tick : Nat)
  | dated (second : Int)
deriving DecidableEq, Repr

/-- A file or a folder. -/
inductive Entry where
  | file (bytes : List UInt8) (stamp : Stamp)
  | folder (entries : List (String × Entry))
deriving Inhabited

/-- The entries of a folder under their names. -/
abbrev Folder := List (String × Entry)

/-- The bytes of a file; a folder has none. -/
def Entry.read : Entry → Except FileError (List UInt8)
  | file bytes _ => .ok bytes
  | folder _ => .error .isDirectory

/-! ## Paths -/

/-- The names that a path leads through, `.` and `..` among them.  A path that starts at
the very top has the top's name first. -/
def pathNames (path : String) : List String :=
  let names := (pieces '/' path).filter fun name => name != ""
  if startsWith "/" path then "/" :: names else names

/-- Whether a path says of itself that it leads to a folder. -/
def namesFolder (path : String) : Bool := endsWith "/" path

/-- A path continued by another one, which stands alone if it starts at the very top. -/
def joinPath (path name : String) : String :=
  if startsWith "/" name then name
  else if path == "" || namesFolder path then path ++ name
  else path ++ "/" ++ name

/-- The path of the folder that a path's last name stands in; a `.` behind a name is no
name of its own. -/
def folderPath (path : String) : String :=
  "/".intercalate ((pathNames path).filter fun name => name != ".").dropLast

/-- The names of the folder above the one that names lead to; both lists begin with the
last name.  Above the very top there is nothing more, and what is above the folder that
paths start from keeps the name `..`. -/
def above : List String → List String
  | [] => [".."]
  | name :: names =>
    if name = ".." then ".." :: name :: names
    else if name = "/" then [name]
    else names

/-- The greatest number of bytes in a name. -/
def nameLimit : Nat := 255

/-- The least number of bytes that is too much for a path. -/
def pathLimit : Nat := 4096

/-- What is wrong with a path before it is looked up. -/
def checkPath (path : String) : Except FileError Unit :=
  if path.toList.contains '\x00' then .error .nameHasNul
  else if pathLimit ≤ size path then .error .nameTooLong
  else .ok ()

namespace Folder

/-! ## Looking up -/

/-- The entry of a name. -/
def get? : Folder → String → Option Entry
  | [], _ => none
  | (n, e) :: es, name => if n = name then some e else get? es name

/-- The entry that names lead to. -/
def find (f : Folder) : List String → Except FileError Entry
  | [] => .ok (.folder f)
  | name :: names =>
    if nameLimit < size name then .error .nameTooLong
    else
      match get? f name with
      | none => .error .notFound
      | some (.folder g) => find g names
      | some (.file bytes stamp) =>
        if names.isEmpty then .ok (.file bytes stamp) else .error .notDirectory

/-- What is wrong with names, the last one first, that do not lead to a folder.  What is
above the folder that paths start from always is one. -/
def notFolder? (f : Folder) (names : List String) : Option FileError :=
  if names.all fun name => name == ".." then none
  else
    match find f names.reverse with
    | .ok (.folder _) => none
    | .ok (.file _ _) => some .notDirectory
    | .error e => some e

/-- The names that lead to the same place without `.` and `..`; those in `seen` are
followed already, and the last of them comes first. -/
def follow (f : Folder) (seen : List String) : List String → Except FileError (List String)
  | [] => .ok seen.reverse
  | name :: names =>
    if name = "." || name = ".." then
      match notFolder? f seen with
      | some e => .error e
      | none => follow f (if name = "." then seen else above seen) names
    else follow f (name :: seen) names

/-! ## Changing -/

/-- The folder with an entry under a name: in place, or behind the others. -/
def set : Folder → String → Entry → Folder
  | [], name, e => [(name, e)]
  | (n, old) :: es, name, e => if n = name then (n, e) :: es else (n, old) :: set es name e

/-- The folder without the entry of a name. -/
def erase (f : Folder) (name : String) : Folder := f.filter fun e => e.1 != name

/-- The folder with a file put where names lead to. -/
def putFile (f : Folder) (file : Entry) : List String → Except FileError Folder
  | [] => .error .isDirectory
  | name :: names =>
    if nameLimit < size name then .error .nameTooLong
    else
      match get? f name, names with
      | some (.folder _), [] => .error .isDirectory
      | _, [] => .ok (set f name file)
      | some (.folder g), _ :: _ => (putFile g file names).map fun g' => set f name (.folder g')
      | some (.file _ _), _ :: _ => .error .notDirectory
      | none, _ :: _ => .error .notFound

/-- The folder with a folder where names lead to, and folders on the way. -/
def makeFolders (f : Folder) : List String → Except FileError Folder
  | [] => .ok f
  | name :: names =>
    if nameLimit < size name then .error .nameTooLong
    else
      match get? f name with
      | some (.folder g) => (makeFolders g names).map fun g' => set f name (.folder g')
      | some (.file _ _) => .error (if names.isEmpty then .alreadyExists else .notDirectory)
      | none => (makeFolders [] names).map fun g' => set f name (.folder g')

/-- The folder with a folder where names lead to that may hold `.` and `..`, and folders
on the way; those in `seen` are followed already, and the last of them comes first.  A
folder in front of `..` is made, but one in front of a last `.` must be there. -/
def makeAlong (f : Folder) (seen : List String) : List String → Except FileError Folder
  | [] => f.makeFolders seen.reverse
  | name :: names =>
    if name = "." then
      match notFolder? f seen with
      | some e => if names.isEmpty then .error e else makeAlong f seen names
      | none => makeAlong f seen names
    else if name = ".." then
      match f.makeFolders seen.reverse with
      | .error .alreadyExists => .error .notDirectory
      | .error e => .error e
      | .ok f => makeAlong f (above seen) names
    else makeAlong f (name :: seen) names

/-- The folder with the entries of the folder that names lead to replaced;
`none` if they lead to no folder. -/
def putFolder (f : Folder) (entries : Folder) : List String → Option Folder
  | [] => some entries
  | name :: names =>
    match get? f name with
    | some (.folder g) => (putFolder g entries names).map fun g' => set f name (.folder g')
    | _ => none

/-- The folder without what names lead to. -/
def remove (f : Folder) : List String → Except FileError Folder
  | [] => .ok []
  | name :: names =>
    match get? f name, names with
    | none, _ => .error .notFound
    | some _, [] => .ok (erase f name)
    | some (.folder g), _ :: _ => (remove g names).map fun g' => set f name (.folder g')
    | some (.file _ _), _ :: _ => .error .notDirectory

end Folder

/-! ## Disks -/

/-- A tree of files, how many writes it has seen, and the present second. -/
structure Disk where
  top : Folder := []
  tick : Nat := 0
  now : Int := 0

namespace Disk

/-- How many whole seconds ago a stamp was made; what lies ahead is now. -/
def age (d : Disk) : Stamp → Nat
  | .written _ => 0
  | .dated second => (d.now - second).toNat

/-- The names, without `.` and `..`, that a path leads through. -/
def names (d : Disk) (path : String) : Except FileError (List String) := do
  checkPath path
  d.top.follow [] (pathNames path)

/-- What is at a path. -/
def find (d : Disk) (path : String) : Except FileError Entry := do
  match ← d.top.find (← d.names path) with
  | .file bytes stamp =>
    if namesFolder path then .error .notDirectory else return .file bytes stamp
  | .folder f => return .folder f

/-- Whether anything is at a path. -/
def has (d : Disk) (path : String) : Bool := (d.find path).toOption.isSome

/-- The bytes of the file at a path. -/
def read (d : Disk) (path : String) : Except FileError (List UInt8) :=
  (d.find path).bind Entry.read

/-- The disk with a file written at a path, under the given date if there is
one. -/
def write (d : Disk) (path : String) (bytes : List UInt8) (date : Option Int) :
    Except FileError Disk := do
  let stamp := match date with
    | some second => Stamp.dated second
    | none => Stamp.written d.tick
  let names ← d.names path
  if namesFolder path then .error .isDirectory
  else return { d with top := ← d.top.putFile (.file bytes stamp) names, tick := d.tick + 1 }

/-- The disk with a folder at a path, and folders on the way. -/
def makeFolders (d : Disk) (path : String) : Except FileError Disk := do
  checkPath path
  return { d with top := ← d.top.makeAlong [] (pathNames path) }

/-- The disk with the entries of the folder at a path replaced; `none` if there is no
folder. -/
def putFolder (d : Disk) (path : String) (entries : Folder) : Option Disk := do
  let names ← (d.names path).toOption
  return { d with top := ← d.top.putFolder entries names, tick := d.tick + 1 }

/-- Whether what is at a path can be removed, and the disk afterwards.  A folder under the
name `.` or `..` is emptied and stays, and with `.` this counts as a failure. -/
def remove (d : Disk) (path : String) : Bool × Disk :=
  match d.names path with
  | .error _ => (false, d)
  | .ok names =>
    match (pathNames path).getLast? with
    | some "." => (false, (d.putFolder path []).getD d)
    | some ".." => (true, (d.putFolder path []).getD d)
    | _ =>
      match d.top.remove names with
      | .error _ => (false, d)
      | .ok top => (true, { d with top := top })

end Disk

end ActionTree
