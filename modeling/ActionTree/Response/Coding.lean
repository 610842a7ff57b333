import ActionTree.Response

/-!
# ActionTree.Response.Coding

Content codings, and the response as it is sent.

1. of the codings that the client accepts `gzip` is preferred to `deflate`; an
   empty body is never coded;
2. a coded body is a sequence of *stored* blocks: two forms of the same bytes,
   of which this is the one that any reader of the format takes and that needs
   no search for repetitions;
3. `gzip` puts a header in front of the blocks, and the checksum and the length
   of the plain bytes behind them.

`Transmission` keeps the plain body beside the coding.  What is sent follows from
the two.
-/

namespace ActionTree

/-- A content coding. -/
inductive Coding where
  | gzip
  | deflate
deriving DecidableEq, Repr

namespace Coding

/-- The name that headers know a coding by. -/
def name : Coding → String
  | gzip => "gzip"
  | deflate => "deflate"

/-- The coding preferred for a client. -/
def choose? (request : Headers) : Option Coding :=
  if request.accepts "gzip" then some gzip
  else if request.accepts "deflate" then some deflate
  else none

/-! ## Blocks -/

/-- The low `count` bytes of a number, lowest first. -/
def littleEndian : (count : Nat) → Nat → List UInt8
  | 0, _ => []
  | count + 1, n => UInt8.ofNat (n % 256) :: littleEndian count (n / 256)

/-- The greatest number of bytes in a stored block. -/
def blockLimit : Nat := 65535

/-- One stored block: a byte that says whether it is the last, the length, the
length with every bit turned over, and the bytes. -/
def block (last : Bool) (bytes : List UInt8) : List UInt8 :=
  (if last then 1 else 0) :: (littleEndian 2 bytes.length ++
    littleEndian 2 (blockLimit - bytes.length) ++ bytes)

/-- Bytes as stored blocks; `fuel` is at least the number of bytes. -/
def blocksFrom : (fuel : Nat) → List UInt8 → List UInt8
  | 0, bytes => block true bytes
  | fuel + 1, bytes =>
    match bytes.drop blockLimit with
    | [] => block true bytes
    | rest => block false (bytes.take blockLimit) ++ blocksFrom fuel rest

/-- Bytes as stored blocks. -/
def blocks (bytes : List UInt8) : List UInt8 := blocksFrom bytes.length bytes

/-! ## Checksum -/

/-- Eight steps of the checksum's shift register. -/
def shiftBits : (count : Nat) → UInt32 → UInt32
  | 0, r => r
  | count + 1, r => shiftBits count (if r &&& 1 = 1 then (r >>> 1) ^^^ 0xEDB88320 else r >>> 1)

/-- The cyclic redundancy check of bytes, 32 bits wide. -/
def checksum (bytes : List UInt8) : UInt32 :=
  (bytes.foldl (fun r b => shiftBits 8 (r ^^^ b.toUInt32)) 0xFFFFFFFF) ^^^ 0xFFFFFFFF

/-- The bytes in a coding. -/
def encode : Coding → List UInt8 → List UInt8
  | deflate, bytes => blocks bytes
  | gzip, bytes =>
    [0x1F, 0x8B, 8, 0, 0, 0, 0, 0, 0, 255] ++ blocks bytes ++
      littleEndian 4 (checksum bytes).toNat ++ littleEndian 4 bytes.length

end Coding

/-! ## Sending -/

/-- A response as it is sent. -/
structure Transmission where
  headers : List String
  body : List UInt8
  coding : Option Coding := none

namespace Transmission

/-- The response in the best coding that the client accepts. -/
def coded (r : Rendered) (request : Headers) : Transmission :=
  match if r.body.isEmpty then none else Coding.choose? request with
  | none => ⟨r.headers, r.body, none⟩
  | some c =>
    ⟨r.headers ++ ["Content-Encoding: " ++ c.name, "Vary: Accept-Encoding"], r.body, some c⟩

/-- The response to a client; it is coded only if that is permitted. -/
def ofResponse (r : Response) (request : Headers) : Transmission :=
  if r.compressible then coded r.render request
  else ⟨r.render.headers, r.render.body, none⟩

/-- The bytes of the body. -/
def bytes (t : Transmission) : List UInt8 :=
  match t.coding with
  | some c => c.encode t.body
  | none => t.body

/-- The header lines, the length of a body that is not empty included. -/
def lines (t : Transmission) : List String :=
  let bs := t.bytes
  if bs.isEmpty then t.headers
  else t.headers ++ ["Content-Length: " ++ toString bs.length]

end Transmission

end ActionTree
