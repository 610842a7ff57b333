import ActionTree.Error
import ActionTree.Node

/-!
# ActionTree.Instruction

The instructions, and which of them a registry knows.

1. an instruction is known by its name, and its layout says what its child nodes
   are: instructions, branches whose own children are instructions, or mere
   declarations;
2. a registry knows the built-in instructions and may know further *markers*,
   which do nothing but let the program go on, and says what their child nodes are;
3. a program is valid if every node in it that can be dispatched has a name the
   registry knows, so that no unknown instruction is met while it runs.

`Registry.check` reports the first offence in document order.
-/

namespace ActionTree

/-! ## Instructions -/

/-- An instruction. -/
inductive Instruction where
  | assign
  | unset
  | push
  | skip
  | leave
  | stop
  | reply
  | fail
  | scalar
  | assoc
  | query
  | user
  | require
  | header
  | write
  | log
  | format
  | compress
  | cache
  | notModified
  | block
  | switch
  | loop
  | traverse
  | stackLoop
  | reader
  | evaluate
  | call
  /-- An instruction that does nothing. -/
  | marker
deriving DecidableEq, Repr

/-- What the child nodes of an instruction are. -/
inductive Layout where
  | instructions
  /-- Branches of the given names, whose children are instructions. -/
  | branches (names : List String)
  | declarations
deriving DecidableEq, Repr

namespace Instruction

/-- The built-in instructions under their names, sorted by name. -/
def builtin : List (String × Instruction) :=
  [("assoc", assoc), ("block", block), ("break", leave), ("cache", cache), ("call", call),
   ("compress", compress), ("continue", skip), ("evaluate", evaluate), ("fail", fail),
   ("format", format), ("header", header), ("log", log), ("loop", loop),
   ("not-modified", notModified), ("push", push), ("query", query), ("reader", reader),
   ("reply", reply), ("require", require), ("scalar", scalar), ("set", assign),
   ("stack-loop", stackLoop), ("stop", stop), ("switch", switch), ("traverse", traverse),
   ("unset", unset), ("user", user), ("write", write)]

/-- The branches of a switch. -/
def switchBranches : List String :=
  ["true", "false", "number", "string", "expr", "match", "default"]

/-- What the child nodes of an instruction are. -/
def layout : Instruction → Layout
  | switch => .branches switchBranches
  | evaluate | call => .declarations
  | _ => .instructions

end Instruction

/-! ## Registries -/

/-- The instructions that an engine knows: the built-in ones and the markers. -/
structure Registry where
  markers : List String := []
  /-- What the child nodes of a marker are. -/
  markerLayout : String → Layout := fun _ => .instructions

namespace Registry

/-- The instruction of a name. -/
def find? (r : Registry) (name : String) : Option Instruction :=
  if r.markers.contains name then some .marker
  else (Instruction.builtin.find? fun e => e.1 == name).map Prod.snd

/-- What the child nodes of a node are that has a name and an instruction. -/
def layout (r : Registry) (name : String) : Instruction → Layout
  | .marker => r.markerLayout name
  | i => i.layout

/-- Whether a name is known. -/
def has (r : Registry) (name : String) : Bool := (r.find? name).isSome

/-- The names that are known, sorted and each once. -/
def names (r : Registry) : List String :=
  (Instruction.builtin.map Prod.fst ++ r.markers).eraseDups.mergeSort fun a b => a ≤ b

/-! ## Validation -/

mutual

/-- The first offence in a node. -/
def checkNode (r : Registry) : Node → Except Error Unit
  | ⟨name, _, children, _⟩ =>
    match r.find? name with
    | none => .error (.unknownInstruction name)
    | some i =>
      match r.layout name i with
      | .instructions => checkNodes r children
      | .branches names => checkBranches r name names children
      | .declarations => .ok ()
termination_by structural n => n

/-- The first offence in a list of nodes. -/
def checkNodes (r : Registry) : List Node → Except Error Unit
  | [] => .ok ()
  | n :: ns =>
    match checkNode r n with
    | .error e => .error e
    | .ok () => checkNodes r ns
termination_by structural ns => ns

/-- The first offence in a list of branches of an instruction. -/
def checkBranches (r : Registry) (parent : String) (names : List String) :
    List Node → Except Error Unit
  | [] => .ok ()
  | ⟨name, _, children, _⟩ :: ns =>
    if names.contains name then
      match checkNodes r children with
      | .error e => .error e
      | .ok () => checkBranches r parent names ns
    else .error (.unknownInstruction (parent ++ "/" ++ name))
termination_by structural ns => ns

end

/-- The first offence in a program. -/
def check (r : Registry) (nodes : List Node) : Except Error Unit := checkNodes r nodes

end Registry

end ActionTree
