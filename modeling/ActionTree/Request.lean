import ActionTree.Double.Decimal
import ActionTree.Json.Shape
import ActionTree.Text.Blank
import ActionTree.Text.Split

/-!
# ActionTree.Request

What a client asks for: a program with parameters, and headers that say how the
answer may look.

1. a header is found by its name in any case; of several the first counts;
2. a content coding is acceptable if some entry of `Accept-Encoding` names it,
   or names everything, and has no quality of zero or less;
3. a quality that is no number is no quality.

Qualities are read in single precision, so one that is too small to be told
from zero there refuses the coding.
-/

namespace ActionTree

open Text

/-! ## Programs -/

/-- A program and the parameters for it. -/
structure Request where
  program : String
  parameters : Record := []

namespace Request

/-- What the record of a request looks like. -/
def schema : Json.Schema where
  title := "struct SubRequest"
  fields := [⟨"program", .text "a string", none⟩, ⟨"params", .record, some (.record [])⟩]

/-- The request in a value. -/
def ofValue (v : Value) : Except String Request :=
  (schema.ofValue v).map fun
    | [.text program, .record parameters] => ⟨program, parameters⟩
    | _ => ⟨"", []⟩

end Request

/-! ## Headers -/

/-- Names and values of headers. -/
abbrev Headers := List (String × String)

/-- The value of the first header of a name. -/
def Headers.find? (hs : Headers) (name : String) : Option String :=
  (List.find? (fun h => sameIgnoringCase h.1 name) hs).map Prod.snd

/-- Whether a parameter of an entry is a quality that refuses it. -/
def refuses (parameter : String) : Bool :=
  match stripStart "q=" (trim parameter) with
  | some q =>
    match readWidth .narrow (trim q).toList with
    | some d => d.isAtMostZero
    | none => false
  | none => false

/-- Whether an entry of `Accept-Encoding` accepts a coding. -/
def entryAccepts (entry coding : String) : Bool :=
  match pieces ';' entry with
  | [] => false
  | name :: parameters =>
    !parameters.any refuses &&
      (sameIgnoringCase (trim name) coding || trim name == "*")

/-- Whether a client accepts a coding. -/
def Headers.accepts (hs : Headers) (coding : String) : Bool :=
  match hs.find? "Accept-Encoding" with
  | some entries => (pieces ',' entries).any fun entry => entryAccepts entry coding
  | none => false

end ActionTree
