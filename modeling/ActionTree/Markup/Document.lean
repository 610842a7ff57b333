import ActionTree.Markup.Token
import ActionTree.Markup.Reference
import ActionTree.Node

/-!
# ActionTree.Markup.Document

Documents to nodes.

1. a document has one root element, whose name says nothing; the root's child
   elements are the nodes of the program;
2. an element's text is everything that stands directly in it, joined in order;
   an element in which nothing was written has no text;
3. keys of one tag differ, and every value is quoted;
4. what stands outside the root is passed over, unless it is an element.

Elements are built innermost first: the open ones are a stack, and children
gather in reverse until their element closes.
-/

namespace ActionTree.Markup

open Text

/-! ## Tags -/

/-- The name that a tag starts with. -/
def tagName (content : List Char) : List Char := content.takeWhile fun c => !isSpace c

/-- What a tag holds behind its name, from the byte on that is given with it. -/
def tagTail (content : List Char) : List Char × Nat :=
  (content.dropWhile fun c => !isSpace c, sizeOfChars (tagName content))

/-- Where a key ends: at `=`, or at white space in front of it. -/
def isKeyEnd (c : Char) : Bool := c = '=' || isSpace c

/-- An attribute as it is written, and the byte at which its key starts. -/
structure RawAttribute where
  key : List Char
  value : List Char
  start : Nat

/-- The next attribute of a tag, the characters behind it and their position;
`none` at the end of the tag.  `total` is the size of the tag, and `seen` are
the attributes before. -/
def nextAttribute (total : Nat) (seen : List RawAttribute) (position : Nat) (cs : List Char) :
    Except Fault (Option (RawAttribute × Nat × List Char)) :=
  let blank := cs.takeWhile isSpace
  let start := position + sizeOfChars blank
  match cs.dropWhile isSpace with
  | [] => .ok none
  | k :: rest =>
    let key := k :: rest.takeWhile fun c => !isKeyEnd c
    let behind := rest.dropWhile fun c => !isKeyEnd c
    let keyEnd := start + sizeOfChars key
    let gap := behind.takeWhile isSpace
    match behind.dropWhile isSpace with
    | [] => .error (.expectedEquals total)
    | d :: rest =>
      if d ≠ '=' then .error (.expectedEquals (keyEnd + sizeOfChars gap))
      else
        match seen.find? fun a => a.key == key with
        | some a => .error (.duplicate start a.start)
        | none =>
          let equals := keyEnd + sizeOfChars gap + 1
          let gap := rest.takeWhile isSpace
          let quoteAt := equals + sizeOfChars gap
          match rest.dropWhile isSpace with
          | [] => .error (.expectedValue total)
          | q :: rest =>
            if q = '"' || q = '\'' then
              match cutChars q rest with
              | none => .error (.openValue total q)
              | some (value, rest) =>
                .ok (some (⟨key, value, start⟩, quoteAt + sizeOfChars value + 2, rest))
            else .error (.unquotedValue quoteAt)

/-- The attributes of a tag from a position on.  `fuel` is at least the number
of characters in front. -/
def attributesFrom (total : Nat) : (fuel : Nat) → List RawAttribute → Nat → List Char →
    Except Fault (List (String × String))
  | 0, _, _, _ => .ok []
  | fuel + 1, seen, position, cs =>
    match nextAttribute total seen position cs with
    | .error f => .error f
    | .ok none => .ok []
    | .ok (some (a, position, rest)) =>
      match unescape a.value with
      | .error f => .error f
      | .ok value =>
        match attributesFrom total fuel (a :: seen) position rest with
        | .error f => .error f
        | .ok more => .ok ((String.ofList a.key, String.ofList value) :: more)

/-- The node of a tag, without children and text. -/
def nodeOfTag (content : List Char) : Except Fault Node :=
  let (tail, position) := tagTail content
  match attributesFrom (sizeOfChars content) (tail.length + 1) [] position tail with
  | .error f => .error f
  | .ok attributes => .ok { name := String.ofList (tagName content), attributes }

/-- The name in a closing tag: white space behind it does not count. -/
def closingName (content : List Char) : List Char :=
  match (content.reverse.dropWhile isSpace).reverse with
  | [] => content
  | name => name

/-! ## Elements -/

/-- The elements that are open, innermost first, and the roots that are closed,
latest first.  An open element has its children in reverse. -/
structure Builder where
  stack : List Node := []
  roots : List Node := []

namespace Builder

/-- A finished element put where it belongs. -/
def attach (b : Builder) (n : Node) : Builder :=
  match b.stack with
  | top :: below => { b with stack := { top with children := n :: top.children } :: below }
  | [] => { b with roots := n :: b.roots }

/-- Text put into the innermost element, if one is open. -/
def write (b : Builder) (text : List Char) : Builder :=
  match b.stack with
  | top :: below =>
    let text := match top.text with
      | some before => before ++ String.ofList text
      | none => String.ofList text
    { b with stack := { top with text := some text } :: below }
  | [] => b

/-- One token read. -/
def step (b : Builder) (t : Token) : Except Fault Builder :=
  match t.kind with
  | .opening content =>
    match nodeOfTag content with
    | .error f => .error f
    | .ok n => .ok { b with stack := n :: b.stack }
  | .empty content =>
    match nodeOfTag content with
    | .error f => .error f
    | .ok n => .ok (b.attach n)
  | .closing content =>
    let name := closingName content
    match b.stack with
    | [] => .error (.strayEnd t.stop (String.ofList name))
    | top :: below =>
      if top.name = String.ofList name then
        .ok (attach { b with stack := below } { top with children := top.children.reverse })
      else .error (.wrongEnd t.stop top.name (String.ofList name))
  | .text raw =>
    if b.stack.isEmpty then .ok b
    else
      match unescape raw with
      | .error f => .error f
      | .ok text => .ok (b.write text)
  | .raw text => .ok (b.write text)
  | .silent => .ok b

/-- All tokens read in order. -/
def run : Builder → List Token → Except Fault Builder
  | b, [] => .ok b
  | b, t :: ts =>
    match b.step t with
    | .error f => .error f
    | .ok b => b.run ts

/-- The one root, when everything is closed. -/
def root (b : Builder) : Except Fault Node :=
  match b.stack, b.roots with
  | top :: _, _ => .error (.openElement top.name)
  | [], [] => .error .noRoot
  | [], [n] => .ok n
  | [], _ => .error .manyRoots

end Builder

/-- The nodes of a document: the child elements of its root. -/
def readDocument (source : String) : Except Fault (List Node) :=
  let (ts, end_) := tokens source.toList
  match Builder.run {} ts with
  | .error f => .error f
  | .ok b =>
    match end_ with
    | some f => .error f
    | none => b.root.map Node.children

end ActionTree.Markup
