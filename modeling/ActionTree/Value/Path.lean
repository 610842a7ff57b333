import ActionTree.Value
import ActionTree.Text.Split
import ActionTree.Text.Numeral

/-!
# ActionTree.Value.Path

Dotted paths into a record, such as `order.items.0.name`.

1. a path is its segments, and there is always at least one;
2. a segment names an entry of a record, or the position of an item of a list,
   counted from zero;
3. `lookup` reads, `update` changes what is there, `assign` writes and makes
   the records on the way, `remove` takes an entry out of the record that holds
   it.

`assign` goes through records only: whatever else it meets on the way is
replaced by a record, a list too.  `lookup` and `update` go through both.
-/

namespace ActionTree

open Text

/-- The segments of a dotted path. -/
def pathSegments (path : String) : List String := pieces '.' path

/-- The position that a segment names in a list. -/
def position? (segment : String) : Option Nat :=
  match readNatChars segment.toList with
  | some n => if fitsBits 64 n then some n else none
  | none => none

/-! ## Reading -/

namespace Value

/-- What a segment names inside a value. -/
def child? : Value → String → Option Value
  | record es, segment => Record.get? es segment
  | list vs, segment =>
    match position? segment with
    | some i => vs[i]?
    | none => none
  | _, _ => none

/-- What a list of segments leads to inside a value. -/
def descend? : Value → List String → Option Value
  | v, [] => some v
  | v, s :: ss =>
    match v.child? s with
    | some w => w.descend? ss
    | none => none

/-! ## Changing what is there -/

/-- The value with its child at a segment replaced; it has one there. -/
def setChild : Value → String → Value → Value
  | record es, segment, w => record (Record.insert es segment w)
  | list vs, segment, w =>
    match position? segment with
    | some i => list (vs.set i w)
    | none => list vs
  | v, _, _ => v

/-- The value with `f` applied to what the segments lead to; `none` if they
lead nowhere. -/
def modify? (f : Value → Value) : Value → List String → Option Value
  | v, [] => some (f v)
  | v, s :: ss =>
    match v.child? s with
    | some w =>
      match modify? f w ss with
      | some w' => some (v.setChild s w')
      | none => none
    | none => none

end Value

namespace Record

/-- The value at a path. -/
def lookup (r : Record) (path : String) : Option Value :=
  (Value.record r).descend? (pathSegments path)

/-- The record with `f` applied to the value at a path; `none` if there is no
value. -/
def update? (r : Record) (path : String) (f : Value → Value) : Option Record :=
  match (Value.record r).modify? f (pathSegments path) with
  | some (.record es) => some es
  | _ => none

/-! ## Writing -/

/-- A value written at segments, records made on the way. -/
def assignAt (r : Record) : List String → Value → Record
  | [], _ => r
  | [key], v => insert r key v
  | key :: rest, v =>
    let inner := match get? r key with
      | some (.record es) => es
      | _ => []
    insert r key (.record (assignAt inner rest v))

/-- A value written at a path, records made on the way. -/
def assign (r : Record) (path : String) (v : Value) : Record :=
  assignAt r (pathSegments path) v

/-! ## Removing -/

/-- The value at a path and the record without it, if the path leads to an
entry of a record. -/
def remove? (r : Record) (path : String) : Option (Value × Record) :=
  match cutLast '.' path with
  | none =>
    match get? r path with
    | some v => some (v, erase r path)
    | none => none
  | some (parent, key) =>
    match lookup r parent with
    | some (.record es) =>
      match get? es key with
      | some v =>
        match update? r parent (fun _ => .record (erase es key)) with
        | some r' => some (v, r')
        | none => none
      | none => none
    | _ => none

end Record

end ActionTree
