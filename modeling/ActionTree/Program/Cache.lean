import ActionTree.Instruction
import ActionTree.Program.Source

/-!
# ActionTree.Program.Cache

Programs that were read before.

1. a program is kept under its id together with the stamp that it was read under;
   it is used again as long as its source reports the same stamp;
2. a program is checked before it is kept, so nothing that fails the check is
   ever served from the cache;
3. a load that fails leaves the cache as it was.
-/

namespace ActionTree

/-- A program that was read and checked. -/
structure Program where
  id : String
  nodes : List Node
  stamp : Stamp

/-- Programs under their ids. -/
abbrev ProgramCache := List (String × Program)

namespace ProgramCache

/-- The program kept under an id. -/
def get? (c : ProgramCache) (id : String) : Option Program := List.lookup id c

/-- The cache without the program of an id. -/
def erase (c : ProgramCache) (id : String) : ProgramCache := c.filter fun e => e.1 != id

/-- The cache with a program kept, in place of one of the same id. -/
def insert (c : ProgramCache) (p : Program) : ProgramCache := (p.id, p) :: c.erase p.id

/-- The program kept under an id, if it still has a given stamp. -/
def current? (c : ProgramCache) (id : String) (stamp : Stamp) : Option Program :=
  (c.get? id).filter fun p => p.stamp = stamp

/-- A program read from its source and checked. -/
def readFresh (source : Source) (registry : Registry) (id : String) (stamp : Stamp) :
    Except Error Program :=
  match source.nodes id with
  | .error e => .error e
  | .ok nodes =>
    match registry.check nodes with
    | .error e => .error e
    | .ok () => .ok ⟨id, nodes, stamp⟩

/-- The program of an id and the cache afterwards. -/
def load (c : ProgramCache) (source : Source) (registry : Registry) (id : String) :
    Except Error Program × ProgramCache :=
  match source.stamp id with
  | .error e => (.error e, c)
  | .ok stamp =>
    match c.current? id stamp with
    | some p => (.ok p, c)
    | none =>
      match readFresh source registry id stamp with
      | .error e => (.error e, c)
      | .ok p => (.ok p, c.insert p)

end ProgramCache

end ActionTree
