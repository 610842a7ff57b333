import ActionTree.Text.Blank
import ActionTree.Text.Split

/-!
# ActionTree.Program.Reference

Names of programs, and the documents that they stand for.

1. the id of a program is a path below the program folder, without the ending
   `.xml`; it may have the ending all the same;
2. a *reference* in a program is resolved against the id of that program: what
   starts with a slash is rooted at the program folder, all else starts where the
   program itself is.  No resolved reference leaves the program folder;
3. an id with an empty segment or a segment `..` stands for no document.
-/

namespace ActionTree

open Text

/-! ## References -/

/-- The segments that are left when `.` and empty segments are dropped and every
`..` takes back the one before it; `back` holds the segments so far, the last one
first. -/
def settle : (back : List String) → List String → List String
  | back, [] => back.reverse
  | back, s :: ss =>
    if s = "" || s = "." then settle back ss
    else if s = ".." then settle back.tail ss
    else settle (s :: back) ss

/-- What a reference is relative to: the part of an id before its last slash. -/
def folderOf (base : Option String) : Option String :=
  base.bind fun id => (cutLast '/' id).map Prod.fst

/-- The segments of a reference, those that it is relative to included. -/
def referenceSegments (base : Option String) (reference : String) : List String :=
  let reference := trim reference
  match stripStart "/" reference, folderOf base with
  | some rooted, _ => pieces '/' rooted
  | none, some folder => pieces '/' (folder ++ "/" ++ reference)
  | none, none => pieces '/' reference

/-- The id that a reference means in the program of a given id. -/
def resolveReference (base : Option String) (reference : String) : String :=
  "/".intercalate (settle [] (referenceSegments base reference))

/-! ## Documents -/

/-- The ending of program documents. -/
def documentEnding : String := ".xml"

/-- The path of a program's document below the program folder. -/
def documentPath? (id : String) : Option String :=
  if (pieces '/' id).any fun s => s == ".." || s == "" then none
  else if endsWith documentEnding id then some id
  else some (id ++ documentEnding)

/-- The name of a file without its last ending, if that is the ending of program
documents and something stands before it. -/
def documentStem? (fileName : String) : Option String :=
  match cutLast '.' fileName with
  | some (stem, ending) => if stem != "" && ending == "xml" then some stem else none
  | none => none

end ActionTree
