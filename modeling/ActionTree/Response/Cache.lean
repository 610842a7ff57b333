import ActionTree.Response
import ActionTree.Storage

/-!
# ActionTree.Response.Cache

Stored responses on a disk.

1. an entry is one file: a line of JSON with the header lines and the permission
   to compress, a line feed, and the bytes of the body.  JSON text has no line
   feed of its own, so the first one ends the line;
2. the name of an entry is the id's bytes in hexadecimal digits, so different ids
   have different entries;
3. an entry is found as long as it is younger than asked for, and an entry that
   cannot be read is as good as none.
-/

namespace ActionTree

open Text Json

namespace StoredResponse

/-! ## The text of an entry -/

/-- The head of an entry as a record. -/
def head (r : StoredResponse) : Record :=
  [("headers", .list (r.headers.map Value.text)), ("compress", .boolean r.compress)]

/-- The bytes of an entry. -/
def write (r : StoredResponse) : List UInt8 :=
  encode (compact (.record r.head)) ++ 0x0A :: r.body

/-- What the head of an entry looks like. -/
def schema : Schema where
  title := "struct CachedResponse"
  fields := [⟨"headers", .texts, none⟩, ⟨"compress", .flag, some (.boolean false)⟩]

/-- The texts in a list of values. -/
def textsOf (vs : List Value) : List String :=
  vs.filterMap fun v =>
    match v with
    | .text s => some s
    | _ => none

/-- The bytes before and after the first line feed. -/
def cutLine : List UInt8 → Option (List UInt8 × List UInt8)
  | [] => none
  | b :: bs => if b = 0x0A then some ([], bs) else (cutLine bs).map fun (x, y) => (b :: x, y)

/-- The response in the bytes of an entry.  What stands under a field that the head does
not have is skipped, so the texts there need not be UTF-8. -/
def read? (bytes : List UInt8) : Option StoredResponse :=
  match cutLine bytes with
  | none => none
  | some (line, body) =>
    match readBytes schema.read line with
    | .ok [.list headers, .boolean compress] => some ⟨textsOf headers, body, compress⟩
    | _ => none

end StoredResponse

/-! ## Entries on a disk -/

namespace ResponseCache

/-- The two hexadecimal digits of a byte. -/
def hexByte (b : UInt8) : List Char := [hexDigit (b.toNat / 16), hexDigit (b.toNat % 16)]

/-- The name of the entry of an id. -/
def entryName (id : String) : String :=
  String.ofList ((encode id).flatMap hexByte) ++ ".entry"

/-- The entries in a cache folder. -/
def entries (d : Disk) (folder : String) : Folder :=
  match d.find folder with
  | .ok (.folder es) => es
  | _ => []

/-- The response stored under an id, unless it is as old as `maxAge` seconds. -/
def probe (d : Disk) (folder id : String) (maxAge : Nat) : Option StoredResponse :=
  match Folder.get? (entries d folder) (entryName id) with
  | some (.file bytes stamp) => if maxAge ≤ d.age stamp then none else StoredResponse.read? bytes
  | _ => none

/-- The disk with a response stored under an id; unchanged if there can be no
cache folder. -/
def store (d : Disk) (folder id : String) (r : StoredResponse) : Disk :=
  match d.makeFolders folder with
  | .error _ => d
  | .ok d =>
    let es := Folder.set (entries d folder) (entryName id) (.file r.write (.written d.tick))
    (d.putFolder folder es).getD d

end ResponseCache

end ActionTree
