import ActionTree.Machine.Data
import ActionTree.Moment.Reader

/-!
# ActionTree.Machine.Control

Instructions that end something, and instructions that speak to the client.

1. `break`, `continue` and `stop` may depend on a condition;
2. a reply is a field or a literal; with a status it becomes an envelope;
3. the settings of the response are only added to by header lines and text, never
   cut short;
4. a client's copy is current if one of its validators is the resource's, or, for
   want of validators, if its date is not before the resource's.
-/

namespace ActionTree

open Text

/-! ## Ending -/

namespace Run

/-- Ends something if a condition holds. -/
def signal (n : Node) (flow : Flow) : Run Flow := do
  let holds ← ask (n.condition "condition")
  return if holds then flow else .next

end Run

/-- The greatest status. -/
def statusLimit : Nat := 65535

/-- The status in an attribute. -/
def Host.status? (h : Host) (n : Node) (c : Context) : Except Error (Option Nat) :=
  match h.integer? n "status" c with
  | .error e => .error e
  | .ok none => .ok none
  | .ok (some i) =>
    if 0 ≤ i && i ≤ statusLimit then .ok (some i.toNat)
    else .error (n.badAttribute "status" "out of range")

/-- What a node replies with. -/
def Host.payload (h : Host) (n : Node) (c : Context) : Except Error Value :=
  match n.name? "ref" with
  | some field => .ok ((c.get field).getD .null)
  | none => (h.literal? n c).map fun v => v.getD .null

namespace Run

/-- Replies. -/
def reply (h : Host) (n : Node) : Run Flow := do
  let payload ← ask (h.payload n)
  match ← ask (h.status? n) with
  | none => return .reply (.value payload)
  | some status =>
    let message ← ask (h.attr? n "message")
    return .reply (.envelope { status, message, payload })

/-- The status of failures that name none. -/
def failureStatus : Nat := 409

/-- Fails. -/
def failWith (h : Host) (n : Node) : Run Flow := do
  let status ← ask (h.status? n)
  let message ← ask (h.attrOrText? n "message")
  fail (.failed (status.getD failureStatus) (message.getD "request failed"))

/-- Goes on only with a privilege. -/
def require (h : Host) (n : Node) : Run Flow := do
  let privilege ← ask (h.attr n "privilege")
  if h.services.privileges.holds privilege then return .next
  else fail (.service (.unauthorized ("privilege '" ++ privilege ++ "' required")))

/-! ## Header lines and text -/

/-- Queues a header line. -/
def header (h : Host) (n : Node) : Run Flow := do
  let line ← ask (h.attrOrText n "line")
  updateOutput fun s => { s with headers := s.headers ++ [line] }
  return .next

end Run

/-- The text that a node writes: an attribute, or all that stands between its
tags, blanks included. -/
def Host.written (h : Host) (n : Node) (c : Context) : Except Error String :=
  match h.attr? n "value" c with
  | .error e => .error e
  | .ok (some s) => .ok s
  | .ok none => (h.expand? n.text c).map fun s => s.getD ""

namespace Run

/-- Writes in front of the reply. -/
def write (h : Host) (n : Node) : Run Flow := do
  let text ← ask (h.written n)
  updateOutput fun s => { s with written := s.written ++ text }
  return .next

end Run

/-- The severity of a name. -/
def Severity.ofName : String → Severity
  | "error" => error
  | "warn" | "warning" => warning
  | "debug" => debug
  | "trace" => trace
  | _ => info

namespace Run

/-- Writes to the log. -/
def log (h : Host) (n : Node) : Run Flow := do
  let message ← ask (h.attrOrText? n "message")
  let c ← scope
  let severity := Severity.ofName (trim ((n.attr? "level").getD "info"))
  record (.logged severity (message.getD "") (c.base.getD ""))
  return .next

end Run

/-! ## Formats -/

/-- The format that a node asks for. -/
def Host.formatOf (h : Host) (n : Node) (c : Context) : Except Error Format :=
  match h.attr? n "type" c with
  | .error e => .error e
  | .ok type =>
    match h.flagOr n "strict" true c with
    | .error e => .error e
    | .ok strict =>
      let kind := lower (trim (type.getD "json"))
      if kind == "json" then .ok .json
      else if kind == "xml" then .ok (if strict then .xml else .xmlDebug)
      else .error (n.badAttribute "type" ("unsupported format '" ++ kind ++ "'"))

namespace Run

/-- Chooses a format. -/
def format (h : Host) (n : Node) : Run Flow := do
  let f ← ask (h.formatOf n)
  updateOutput fun s => { s with format := f }
  return .next

/-- Permits or forbids compression. -/
def compress (h : Host) (n : Node) : Run Flow := do
  let enabled ← ask (h.flagOr n "enabled" true)
  updateOutput fun s => { s with compress := enabled }
  return .next

end Run

/-! ## Stored responses -/

/-- The wish of a node to have the response stored. -/
def Host.directive (h : Host) (n : Node) (c : Context) : Except Error Directive :=
  match h.attr n "id" c with
  | .error e => .error e
  | .ok id =>
    match h.integer? n "expires" c with
    | .error e => .error e
    | .ok seconds => .ok ⟨id, (seconds.getD 0).toNat⟩

namespace Run

/-- Replays the stored response of a directive and stops, or asks for the
response to be stored under it. -/
def consultCache (h : Host) (d : Directive) : Run Flow :=
  match h.stored d.id d.seconds with
  | some hit => do
    record (.replayed d.id)
    updateOutput fun s => { s with replay := some hit }
    return .stop
  | none => do
    updateOutput fun s => { s with directive := some d }
    return .next

/-- Replays a stored response, unless this is part of a batch. -/
def cache (h : Host) (n : Node) : Run Flow := do
  if (← output).batch then return .next
  else
    let d ← ask (h.directive n)
    consultCache h d

end Run

/-! ## Validators -/

/-- A text without marks of weakness in front. -/
def dropWeak : (fuel : Nat) → List Char → List Char
  | fuel + 1, 'W' :: '/' :: cs => dropWeak fuel cs
  | _, cs => cs

/-- A text without quotes at either end. -/
def dropQuotes (cs : List Char) : List Char :=
  let isQuote (c : Char) : Bool := c = '"'
  ((cs.dropWhile isQuote).reverse.dropWhile isQuote).reverse

/-- The tag in an entry of a list of validators. -/
def tagOf (entry : String) : String :=
  String.ofList (dropQuotes (dropWeak entry.length entry.toList))

/-- Whether a list of validators has a tag in it, or admits all. -/
def validatorsAdmit (validators tag : String) : Bool :=
  (pieces ',' validators).any fun entry =>
    let entry := trim entry
    entry == "*" || tagOf entry == tag

/-- Whether a client's copy is current. -/
def isCurrent (request : Headers) (tag : Option String) (date : Option Moment) : Bool :=
  match tag, request.find? "If-None-Match" with
  | some tag, some validators => validatorsAdmit validators tag
  | _, _ =>
    match date, request.find? "If-Modified-Since" with
    | some date, some text =>
      match Moment.read? text with
      | some client => date.seconds ≤ client.seconds
      | none => false
    | _, _ => false

/-- The tag of the resource that a node speaks of. -/
def Host.tag? (h : Host) (n : Node) (c : Context) : Except Error (Option String) :=
  (h.attr? n "etag" c).map fun s => s.bind trimmed?

/-- The date of the resource that a node speaks of. -/
def Host.date? (h : Host) (n : Node) (c : Context) : Except Error (Option Moment) :=
  match h.attr? n "timestamp" c with
  | .error e => .error e
  | .ok none => .ok none
  | .ok (some s) =>
    match Moment.read? s with
    | some t => .ok (some t)
    | none => .error (n.badAttribute "timestamp" ("'" ++ s ++ "' is not a timestamp"))

/-- The header lines that tell a client what to compare with. -/
def validatorLines (tag : Option String) (date : Option Moment) : List String :=
  (match tag with
    | some t => ["ETag: \"" ++ t ++ "\""]
    | none => []) ++
  (match date with
    | some d => ["Last-Modified: " ++ d.httpDate]
    | none => [])

/-- The status line for a client whose copy is current. -/
def notModifiedLine : String := "HTTP/1.1 304 Not Modified"

namespace Run

/-- Stops if the client's copy is current. -/
def notModified (h : Host) (n : Node) : Run Flow := do
  let tag ← ask (h.tag? n)
  let date ← ask (h.date? n)
  if isCurrent h.request tag date then
    updateOutput fun s => { s with headers := s.headers ++ [notModifiedLine] }
    return .stop
  else
    updateOutput fun s => { s with headers := s.headers ++ validatorLines tag date }
    return .next

end Run

end ActionTree
