import ActionTree.Envelope.Markup
import ActionTree.Error
import ActionTree.Flow
import ActionTree.Request
import ActionTree.Text.Utf8

/-!
# ActionTree.Response

From the end of a program to header lines and a body.

1. *settings* are what instructions ask for while the program runs: a format,
   header lines, text written in front of the reply, a place in the response
   cache, a stored response to replay;
2. an *outcome* is what the program produced, and `Response.assemble` reads it
   off the flow that the program ended with;
3. `Response.render` gives the header lines and the bytes.  A stored response is
   rendered as it was stored, whatever the settings say.

A failure keeps the queued header lines.  It drops what was written in front of
the reply and the wish to be stored.
-/

namespace ActionTree

open Text

/-! ## Settings -/

/-- A response as it is stored: its header lines, its body before any content
coding, and whether it may be compressed. -/
structure StoredResponse where
  headers : List String
  body : List UInt8
  compress : Bool
deriving DecidableEq, Repr

/-- The wish to have the response stored: under which name, and how many seconds
it may be replayed. -/
structure Directive where
  id : String
  seconds : Nat
deriving DecidableEq, Repr

/-- What the instructions of a request have asked for so far. -/
structure Settings where
  format : Format := .json
  compress : Bool := false
  directive : Option Directive := none
  headers : List String := []
  written : String := ""
  batch : Bool := false
  replay : Option StoredResponse := none
deriving Repr

/-! ## Outcomes -/

/-- What a request produced. -/
inductive Outcome where
  | envelope (e : Envelope)
  | text (s : String)
  /-- Nothing but what was written in front of a reply. -/
  | silent
  /-- A stored response. -/
  | stored (r : StoredResponse)

/-- The outcome as an envelope, which is how a batch reports it. -/
def Outcome.toEnvelope : Outcome → Envelope
  | envelope e => e
  | text s => Envelope.ok (.text s)
  | silent => Envelope.ok .null
  | stored r => Envelope.ok (.text (decode r.body))

/-- Whether an outcome may be stored: a success that is not itself a replay. -/
def Outcome.storable : Outcome → Bool
  | envelope e => e.status == 200
  | text _ => true
  | silent | stored _ => false

/-- A finished request. -/
structure Response where
  outcome : Outcome
  settings : Settings

namespace Response

/-- The outcome of a request without a reply: the replay that was asked for, if
one was. -/
def quiet (settings : Settings) : Response :=
  match settings.replay with
  | some r => ⟨.stored r, { settings with replay := none }⟩
  | none => ⟨.silent, settings⟩

/-- The response of a program that ended with a flow. -/
def assemble (flow : Flow) (settings : Settings) : Response :=
  match flow with
  | .reply (.envelope e) => ⟨.envelope e, settings⟩
  | .reply (.value (.text s)) => ⟨.text s, settings⟩
  | .reply (.value .null) | .stop => quiet settings
  | .reply (.value v) => ⟨.envelope (Envelope.ok v), settings⟩
  | .next | .skip | .leave => ⟨.envelope (Envelope.ok .null), settings⟩

/-- The response of a program that could not go on. -/
def failure (e : Error) (settings : Settings) (detailed : Bool) : Response :=
  ⟨.envelope (Envelope.ofError e detailed), { settings with written := "", directive := none }⟩

/-- The status, if the outcome has one. -/
def status? (r : Response) : Option Nat :=
  match r.outcome with
  | .envelope e => some e.status
  | _ => none

/-- Whether the body may be compressed. -/
def compressible (r : Response) : Bool :=
  match r.outcome with
  | .stored s => s.compress
  | _ => r.settings.compress

end Response

/-! ## Header lines -/

/-- The name in a header line; a line without a colon is all name. -/
def lineName (line : String) : String :=
  match cut ':' line with
  | some (name, _) => trim name
  | none => line

/-- The lines with one more at the end, unless a line of that name is there. -/
def addDefault (lines : List String) (line : String) : List String :=
  if lines.any fun l => sameIgnoringCase (lineName l) (lineName line) then lines
  else lines ++ [line]

/-- The value in the first header line of a name. -/
def findLine? (lines : List String) (name : String) : Option String :=
  lines.findSome? fun line =>
    match cut ':' line with
    | some (key, value) => if sameIgnoringCase (trim key) name then some (trim value) else none
    | none => none

/-! ## Rendering -/

/-- Header lines and the body before any content coding. -/
structure Rendered where
  headers : List String
  body : List UInt8
deriving DecidableEq, Repr

/-- The header line that says a body is text. -/
def textType : String := "Content-Type: text/plain; charset=utf-8"

/-- The header lines and the body of a response. -/
def Response.render (r : Response) : Rendered :=
  let s := r.settings
  match r.outcome with
  | .envelope e =>
    ⟨addDefault (s.headers ++ e.headers) s.format.contentType,
      encode (s.written ++ e.serialize s.format)⟩
  | .text t => ⟨addDefault s.headers textType, encode (s.written ++ t)⟩
  | .silent => ⟨s.headers, encode s.written⟩
  | .stored c => ⟨c.headers, c.body⟩

/-- What the response cache keeps of a response. -/
def Response.toStored (r : Response) : StoredResponse :=
  let rendered := r.render
  ⟨rendered.headers, rendered.body, r.settings.compress⟩

/-- Where a response is to be stored, if it is. -/
def Response.storeUnder? (r : Response) : Option String :=
  match r.settings.directive with
  | some d => if r.outcome.storable && !r.settings.batch then some d.id else none
  | none => none

end ActionTree
