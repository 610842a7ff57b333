import ActionTree.Double
import ActionTree.Double.Shortest
import ActionTree.Text.Numeral

/-!
# ActionTree.Value

The data that programs work on: null, booleans, numbers, texts, lists and
records.

1. a number is an integer or a finite double, and keeps which of the two it is;
2. a record is a list of entries: its order is part of the value and shows
   wherever the value is written out;
3. writing under a key that is present keeps the entry's place, a new key goes
   to the end, and removing an entry moves the *last* entry into its place.

No key occurs twice in a record that `Record.insert` and `Record.remove` made;
`Record.Distinct` says so for a record from elsewhere.
-/

namespace ActionTree

/-! ## Types -/

/-- A number of the data model. -/
inductive Number where
  | integer (n : Int)
  | real (x : Finite)
deriving DecidableEq, Repr

/-- A value of the data model. -/
inductive Value where
  | null
  | boolean (b : Bool)
  | number (n : Number)
  | text (s : String)
  | list (items : List Value)
  | record (entries : List (String × Value))
deriving Repr, Inhabited

/-- Keys with values, in an order that is kept. -/
abbrev Record := List (String × Value)

namespace Value

/-- An integer as a value. -/
def int (n : Int) : Value := .number (.integer n)

/-- A natural number as a value. -/
def nat (n : Nat) : Value := .number (.integer n)

/-- The entries of a record; `none` for any other value. -/
def record? : Value → Option Record
  | record es => some es
  | _ => none

/-- The items of a list; `none` for any other value. -/
def list? : Value → Option (List Value)
  | list vs => some vs
  | _ => none

end Value

/-! ## Equality -/

namespace Value

mutual

/-- Whether two values are the same, the order of the entries of records included. -/
def same : Value → Value → Bool
  | null, null => true
  | boolean a, boolean b => a == b
  | number a, number b => a == b
  | text a, text b => a == b
  | list as, list bs => sameItems as bs
  | record as, record bs => sameEntries as bs
  | _, _ => false

/-- Whether two lists have the same items. -/
def sameItems : List Value → List Value → Bool
  | [], [] => true
  | a :: as, b :: bs => same a b && sameItems as bs
  | _, _ => false

/-- Whether two records have the same entries in the same order. -/
def sameEntries : List (String × Value) → List (String × Value) → Bool
  | [], [] => true
  | (j, a) :: as, (k, b) :: bs => j == k && same a b && sameEntries as bs
  | _, _ => false

end

mutual

theorem same_iff (v w : Value) : same v w = true ↔ v = w := by
  cases v with
  | list as => cases w <;> simp [same, sameItems_iff as]
  | record as => cases w <;> simp [same, sameEntries_iff as]
  | _ => cases w <;> simp [same]

theorem sameItems_iff (as bs : List Value) : sameItems as bs = true ↔ as = bs := by
  cases as with
  | nil => cases bs <;> simp [sameItems]
  | cons a as => cases bs <;> simp [sameItems, same_iff a, sameItems_iff as]

theorem sameEntries_iff (as bs : List (String × Value)) : sameEntries as bs = true ↔ as = bs := by
  cases as with
  | nil => cases bs <;> simp [sameEntries]
  | cons a as =>
    obtain ⟨k, a⟩ := a
    cases bs <;> simp [sameEntries, same_iff a, sameEntries_iff as, Prod.ext_iff]

end

instance : DecidableEq Value := fun v w => decidable_of_iff (same v w = true) (same_iff v w)

end Value
/-! ## Numbers -/

namespace Number

/-- The double nearest to a number. -/
def toDouble : Number → Double
  | integer n => Double.ofInt n
  | real x => .finite x

/-- The text of a number: an integer's numeral, a double's shortest text. -/
def chars : Number → List Char
  | integer n => Text.intChars n
  | real x => x.chars

/-- `Number.chars` as a string. -/
def text (n : Number) : String := String.ofList n.chars

end Number

/-- A double as a value: an integer when it is whole and not beyond the signed
64-bit range by more than the range's upper end, a double otherwise, and null
when it is not finite.  The upper end itself is `2 ^ 63`, which is held to
`2 ^ 63 - 1`. -/
def Value.ofDouble (d : Double) : Value :=
  match d with
  | .finite x =>
    if x.isWhole && leastInt64 ≤ x.truncate && x.truncate ≤ greatestInt64 + 1 then
      .int (min greatestInt64 x.truncate)
    else .number (.real x)
  | _ => .null

/-! ## Records -/

namespace Record

/-- The value under a key. -/
def get? : Record → String → Option Value
  | [], _ => none
  | (k, v) :: es, key => if k = key then some v else get? es key

/-- Whether a key is present. -/
def has (r : Record) (key : String) : Bool := (get? r key).isSome

/-- The keys, in order. -/
def keys (r : Record) : List String := r.map Prod.fst

/-- The record with a value written under a key: in place when the key is
present, at the end otherwise. -/
def insert : Record → String → Value → Record
  | [], key, value => [(key, value)]
  | (k, v) :: es, key, value =>
    if k = key then (k, value) :: es else (k, v) :: insert es key value

/-- The record without the entry under a key, the last entry moved into its
place. -/
def erase : Record → String → Record
  | [], _ => []
  | (k, v) :: es, key =>
    if k = key then
      match es.getLast? with
      | none => []
      | some last => last :: es.dropLast
    else (k, v) :: erase es key

/-- The entries of `more` written into `r` in order. -/
def merge (r more : Record) : Record := more.foldl (fun r e => insert r e.1 e.2) r

/-- No key occurs twice. -/
def Distinct (r : Record) : Prop := (keys r).Nodup

/-! ## What an operation does to the view -/

theorem get?_insert (r : Record) (key : String) (v : Value) (k : String) :
    get? (insert r key v) k = if key = k then some v else get? r k := by
  induction r with
  | nil => simp [insert, get?]
  | cons e es ih =>
    obtain ⟨a, w⟩ := e
    simp only [insert]
    split
    · rename_i h
      by_cases hk : key = k
      · simp [get?, h, hk]
      · simp [get?, h, hk]
    · rename_i h
      by_cases ha : a = k
      · have : key ≠ k := fun hk => h (ha.trans hk.symm)
        simp [get?, ha, this]
      · simp [get?, ha, ih]

@[simp] theorem get?_insert_self (r : Record) (key : String) (v : Value) :
    get? (insert r key v) key = some v := by simp [get?_insert]

theorem get?_insert_of_ne {r : Record} {key k : String} {v : Value} (h : k ≠ key) :
    get? (insert r key v) k = get? r k := by simp [get?_insert, Ne.symm h]

theorem get?_eq_none_iff {r : Record} {key : String} : get? r key = none ↔ key ∉ keys r := by
  induction r with
  | nil => simp [get?, keys]
  | cons e es ih =>
    obtain ⟨k, v⟩ := e
    by_cases h : k = key
    · simp [get?, keys, h]
    · simpa [get?, keys, h, Ne.symm h, eq_comm] using ih

end Record

end ActionTree
