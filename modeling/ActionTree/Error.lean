import ActionTree.Expr.Token
import ActionTree.Json.Fault
import ActionTree.Markup.Fault

/-!
# ActionTree.Error

Why a program cannot go on.

1. every cause is a constructor, and `Error.message` is its one wording;
2. a *fatal* error ends the request: no block catches an unknown instruction,
   nesting that is too deep, or a program that is not well formed;
3. `Error.status` is what the client is told in numbers, `Error.publicMessage`
   what it is told in words: the details of the file system stay inside.
-/

namespace ActionTree

/-! ## Collaborators -/

/-- What a collaborator failed at. -/
inductive ServiceError where
  | database (message : String)
  | unauthorized (message : String)
  | template (message : String)
  | other (message : String)
deriving DecidableEq, Repr

/-- The wording of a collaborator's failure. -/
def ServiceError.message : ServiceError → String
  | database m => "database error: " ++ m
  | unauthorized m => "not authorized: " ++ m
  | template m => "template error: " ++ m
  | other m => m

/-! ## The file system -/

/-- What the file system refused. -/
inductive FileError where
  | notFound
  | notDirectory
  | isDirectory
  | nameTooLong
  | nameHasNul
  | notText
  | alreadyExists
deriving DecidableEq, Repr

/-- The wording of a refusal. -/
def FileError.message : FileError → String
  | notFound => "No such file or directory (os error 2)"
  | notDirectory => "Not a directory (os error 20)"
  | isDirectory => "Is a directory (os error 21)"
  | nameTooLong => "File name too long (os error 36)"
  | nameHasNul => "file name contained an unexpected NUL byte"
  | notText => "stream did not contain valid UTF-8"
  | alreadyExists => "File exists (os error 17)"

/-! ## Causes -/

/-- Why a program cannot go on. -/
inductive Error where
  /-- No instruction has the node's name. -/
  | unknownInstruction (name : String)
  /-- There is no program of that name. -/
  | missingProgram (id : String)
  /-- Too many sub-programs are open. -/
  | recursionLimit (depth limit : Nat)
  /-- The program itself asked to fail. -/
  | failed (status : Nat) (message : String)
  /-- A document is not a program. -/
  | document (fault : Markup.Fault)
  /-- A condition is not well formed. -/
  | condition (source : String) (fault : Expr.Fault)
  /-- An attribute is missing or unusable. -/
  | badAttribute (instruction name detail : String)
  /-- A collaborator failed. -/
  | service (cause : ServiceError)
  /-- The file system refused. -/
  | file (cause : FileError)
  /-- A literal is not JSON. -/
  | literal (source : String) (fault : Json.Fault)
deriving DecidableEq, Repr

namespace Error

/-- The wording of an error. -/
def message : Error → String
  | unknownInstruction name => "unknown instruction <" ++ name ++ ">"
  | missingProgram id => "program '" ++ id ++ "' not found"
  | recursionLimit depth limit =>
    "call depth " ++ toString depth ++ " exceeds the limit of " ++ toString limit
  | failed _ m => m
  | document fault => "invalid program document: " ++ fault.message
  | condition source fault => "invalid expression: " ++ fault.message source
  | badAttribute instruction name detail =>
    "<" ++ instruction ++ "> attribute '" ++ name ++ "': " ++ detail
  | service cause => cause.message
  | file cause => "I/O error: " ++ cause.message
  | literal source fault => "JSON error: " ++ fault.message source.toList

/-- Whether an error ends the request whatever blocks it passes. -/
def isFatal : Error → Bool
  | unknownInstruction _ | recursionLimit _ _ | document _ => true
  | _ => false

/-- The status that the client is given. -/
def status : Error → Nat
  | failed status _ => status
  | service (.unauthorized _) => 403
  | service _ => 401
  | missingProgram _ => 400
  | literal _ _ => 410
  | _ => 500

/-- The wording that the client is given: what the file system said stays
inside. -/
def publicMessage : Error → String
  | file _ => "internal error"
  | e => e.message

end Error

end ActionTree
