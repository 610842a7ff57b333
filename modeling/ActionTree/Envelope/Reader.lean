import ActionTree.Envelope
import ActionTree.Json.Shape

/-!
# ActionTree.Envelope.Reader

Envelopes and formats from values.

1. the status must be there and fit 16 bits; message and payload may be left out,
   and a message may be null;
2. an envelope that was read brings no header lines;
3. what `Envelope.toValue` gives can be read.
-/

namespace ActionTree

/-- The kind of value that names a format. -/
def Format.kind : Json.Kind := .word (all.map name)

/-- The format that a value names. -/
def Format.ofValue (v : Value) : Except String Format :=
  (kind.check v).map fun
    | .text s => (ofName? s).getD .json
    | _ => .json

namespace Envelope

/-- The least number that is too large for a status. -/
def statusBound : Nat := 65536

/-- What the record of an envelope looks like. -/
def schema : Json.Schema where
  title := "struct Envelope"
  fields :=
    [⟨"status", .natural statusBound "u16", none⟩, ⟨"message", .maybeText, some .null⟩,
     ⟨"payload", .any, some .null⟩]

/-- The envelope in a value. -/
def ofValue (v : Value) : Except String Envelope :=
  (schema.ofValue v).map fun
    | [.number (.integer status), .text message, payload] =>
      { status := status.toNat, message := some message, payload }
    | [.number (.integer status), _, payload] => { status := status.toNat, payload }
    | _ => { status := 0 }

end Envelope

end ActionTree
