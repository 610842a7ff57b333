import ActionTree.Envelope.Reader
import ActionTree.Json.Shape.Reader

/-!
# ActionTree.Config

The settings of an engine, and their text.

1. the text is a record of the five settings in wide JSON, in the order of the
   structure;
2. when it is read, a setting that was left out has its default, and the settings
   may also stand in a list, which may end early;
3. the root that stands in a text never counts: it is where the text was found.
-/

namespace ActionTree

open Json

/-- The settings of an engine. -/
structure Config where
  /-- The folder of the engine. -/
  root : String := ".actionflow"
  /-- How many sub-programs may be open at once. -/
  maxCallDepth : Nat := 32
  /-- What the names of exported fields begin with. -/
  exportMarker : String := "@"
  format : Format := .json
  /-- Whether clients see the full wording of errors. -/
  debug : Bool := false
deriving DecidableEq, Repr

namespace Config

/-- The least number that is too large for a depth. -/
def depthLimit : Nat := pow2 64

/-- The settings as a record. -/
def toRecord (c : Config) : Record :=
  [("root", .text c.root), ("max_call_depth", .nat c.maxCallDepth),
   ("export_marker", .text c.exportMarker), ("default_format", .text c.format.name),
   ("debug", .boolean c.debug)]

/-- The text of the settings. -/
def write (c : Config) : String := wide (.record c.toRecord)

/-- What the record of the settings looks like. -/
def schema : Schema where
  title := "struct EngineConfig"
  fields :=
    [⟨"root", .text "path string", some (.text ".actionflow")⟩,
     ⟨"max_call_depth", .natural depthLimit "usize", some (.nat 32)⟩,
     ⟨"export_marker", .text "a string", some (.text "@")⟩,
     ⟨"default_format", Format.kind, some (.text "json")⟩,
     ⟨"debug", .flag, some (.boolean false)⟩]

/-- The settings whose values are given in the order of the schema. -/
def ofFields : List Value → Config
  | [.text root, .number (.integer depth), .text marker, .text format, .boolean debug] =>
    { root, maxCallDepth := depth.toNat, exportMarker := marker
      format := (Format.ofName? format).getD .json, debug }
  | _ => {}

/-- The settings in a value. -/
def ofValue (v : Value) : Except String Config := (schema.ofValue v).map ofFields

/-- The settings in a text that was found at a root. -/
def read (root : String) (source : List Char) : Except Fault Config :=
  (schema.read source).map fun fields => { ofFields fields with root := root }

end Config

end ActionTree
