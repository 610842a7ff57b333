import ActionTree.Engine
import ActionTree.Proofs.Run

/-!
# ActionTree.Proofs.Extension

Markers that do something.

1. an *extension* says what the markers of a registry do; like every instruction it is
   given what executes nodes further in (`executeWith`);
2. with the extension by which markers do nothing, nodes and programs run as they do
   without one (`executeWith_idle`, `executeProgram_eq`).
-/

namespace ActionTree

open Run

/-- What a marker does, given what executes nodes further in. -/
abbrev Extension := (exec : Node → Run Flow) → Node → Run Flow

/-- Markers do nothing but let the program go on. -/
def Extension.idle : Extension := fun _ _ => pure .next

namespace Run

/-! ## Nodes -/

/-- What an instruction does, a marker what its extension says. -/
def performWith (own : Extension) (h : Host) (fuel : Nat) (exec : Node → Run Flow)
    (i : Instruction) (n : Node) : Run Flow :=
  match i with
  | .marker => own exec n
  | i => perform h fuel exec i n

/-- What a node does, a marker what its extension says. -/
def executeWith (own : Extension) (h : Host) : (fuel : Nat) → Node → Run Flow
  | 0, _ => throw .outOfFuel
  | fuel + 1, n =>
    closing (do
      record (.began n.name (← scope).depth)
      match h.registry.find? n.name with
      | none => fail (.unknownInstruction n.name)
      | some i => performWith own h fuel (executeWith own h fuel) i n) fun result s =>
        { s with journal := .ended n.name result :: s.journal }

variable {own : Extension} {h : Host}

theorem performWith_of_ne {i : Instruction} (hi : i ≠ .marker) (fuel : Nat)
    (exec : Node → Run Flow) (n : Node) :
    performWith own h fuel exec i n = perform h fuel exec i n := by
  cases i with
  | marker => exact absurd rfl hi
  | _ => rfl

/-- A node begins, its instruction is looked up and performed, and it ends. -/
theorem executeWith_apply (fuel : Nat) (n : Node) (s : State) :
    executeWith own h (fuel + 1) n s =
      let (result, t) := (match h.registry.find? n.name with
        | none => fail (.unknownInstruction n.name)
        | some i => performWith own h fuel (executeWith own h fuel) i n) (beginning n s)
      (result, { t with journal := .ended n.name result :: t.journal }) := rfl

theorem executeWith_unknown {n : Node} (hi : h.registry.find? n.name = none) (fuel : Nat)
    (s : State) :
    executeWith own h (fuel + 1) n s =
      let (result, t) := (fail (.unknownInstruction n.name) : Run Flow) (beginning n s)
      (result, { t with journal := .ended n.name result :: t.journal }) := by
  simp only [executeWith_apply, hi]

theorem executeWith_known {n : Node} {i : Instruction} (hi : h.registry.find? n.name = some i)
    (fuel : Nat) (s : State) :
    executeWith own h (fuel + 1) n s =
      let (result, t) := performWith own h fuel (executeWith own h fuel) i n (beginning n s)
      (result, { t with journal := .ended n.name result :: t.journal }) := by
  simp only [executeWith_apply, hi]

/-- With markers that do nothing a node does what it does without an extension. -/
theorem executeWith_idle (h : Host) (fuel : Nat) (n : Node) :
    executeWith .idle h fuel n = execute h fuel n := by
  induction fuel generalizing n with
  | zero => rfl
  | succ fuel ih =>
    have hexec : executeWith .idle h fuel = execute h fuel := funext ih
    have hperform (i : Instruction) (exec : Node → Run Flow) :
        performWith .idle h fuel exec i n = perform h fuel exec i n := by
      cases i <;> rfl
    rw [executeWith, hexec]
    simp only [hperform]
    rfl

/-! ## Programs -/

/-- What is done about a program whose first node asks for a stored response: with none
found, its other nodes are run. -/
def behindCache (h : Host) (exec : Node → Run Flow) (rest : List Node) (d : Directive) :
    Run Flow := do
  match ← consultCache h d with
  | .next => sequence exec rest
  | flow => return flow

/-- Runs the nodes of a program. -/
def nodesWith (h : Host) (exec : Node → Run Flow) (nodes : List Node) : Run Flow := do
  match nodes with
  | [] => sequence exec []
  | first :: rest =>
    if first.name == "cache" && !(← output).batch then
      let d ← ask (h.directive first)
      behindCache h exec rest d
    else sequence exec (first :: rest)

theorem nodesWith_cons (h : Host) (exec : Node → Run Flow) (first : Node) (rest : List Node)
    (s : State) :
    nodesWith h exec (first :: rest) s =
      if first.name = "cache" ∧ s.output.batch = false then
        match h.directive first s.scope with
        | .error e => (.error (.error e), s)
        | .ok d => behindCache h exec rest d s
      else sequence exec (first :: rest) s := by
  rw [nodesWith, bind_apply, output_apply]
  by_cases hcache : first.name = "cache" ∧ s.output.batch = false
  · have hleading : (first.name == "cache" && !s.output.batch) = true := by simpa using hcache
    rw [if_pos hcache]
    dsimp only
    rw [if_pos hleading, bind_apply, ask_apply]
    cases h.directive first s.scope <;> rfl
  · have hleading : ¬ (first.name == "cache" && !s.output.batch) = true := by simpa using hcache
    rw [if_neg hcache]
    dsimp only
    rw [if_neg hleading]

/-- Runs the program of an id. -/
def programWith (h : Host) (exec : Node → Run Flow) (id : String) : Run Flow := do
  match ← load h id with
  | .error e => fail e
  | .ok p => do
    updateScope fun c => { c with base := some p.id }
    nodesWith h exec p.nodes

/-- A program is run by what executes its nodes. -/
theorem executeProgram_eq (h : Host) (fuel : Nat) (id : String) :
    executeProgram h fuel id = programWith h (execute h fuel) id := rfl

end Run

end ActionTree
