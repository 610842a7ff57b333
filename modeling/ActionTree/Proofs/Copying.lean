import ActionTree.Proofs.JsonValue
import ActionTree.Proofs.LoopFold
import ActionTree.Proofs.Paths
import ActionTree.Proofs.Segmentation

/-!
# ActionTree.Proofs.Copying

A list or a record that is spliced into a literal is copied.

1. a template that is one reference comes to the text of the field, whatever braces the text
   has in it (`Template.expand_reference`);
2. the text of a list or a record is its compact form, and that is read back as it was
   (`Json.read_compact`);
3. what is written under a name that is read where it is written is found there.

Between the field and its copy there is a text, but no template is seen in it.
-/

namespace ActionTree

open Run

/-! ## Literals -/

/-- A list or a record. -/
def Value.IsContainer : Value → Prop
  | list _ | record _ => True
  | _ => False

theorem Value.toText_of_isContainer {v : Value} (h : v.IsContainer) : v.toText = Json.compact v := by
  cases v with
  | list vs => rfl
  | record es => rfl
  | _ => exact absurd h id

/-- A node that writes into a field what a name stands for, by way of its JSON text. -/
structure Node.Copies (n : Node) (field name : String) : Prop where
  ref : n.name? "ref" = some field
  scope : n.attr? "scope" = none
  value : n.attr? "value" = some ("\x7b" ++ name ++ "\x7d")
  json : n.attr? "json" = some "1"

section Literals

variable {h : Host} {n : Node} {c : Context} {field name : String} {v : Value}

theorem expand_braces (hbraces : h.services.templates = .braces) (text : String) :
    h.expand text c = .ok (Template.expand text c) := by
  rw [Host.expand, hbraces]
  rfl

theorem Node.Copies.target (hn : n.Copies field name) : h.target n c = .ok field := by
  simp [Host.target, Node.field, hn.ref, Host.attr?, hn.scope, Host.expand?]

/-- The literal is the value itself. -/
theorem Node.Copies.literal? (hn : n.Copies field name) (hbraces : h.services.templates = .braces)
    (hname : isName name.toList = true) (hv : c.resolve name = some v)
    (hcontainer : v.IsContainer) (hintegral : v.Integral) (hnesting : v.nesting ≤ Json.maxDepth) :
    h.literal? n c = .ok (some v) := by
  have htext : Template.expand ("\x7b" ++ name ++ "\x7d") c = Json.compact v := by
    rw [Template.expand_reference hname, Piece.text, hv]
    exact Value.toText_of_isContainer hcontainer
  have hvalue : h.attrOrText? n "value" c = .ok (some (Json.compact v)) := by
    rw [Host.attrOrText?, Host.attr?, hn.value, Host.expand?, expand_braces hbraces, htext]
    rfl
  have hflag : h.flag n "json" c = .ok true := by
    have hone : Template.expand "1" c = "1" := Template.expand_of_no_brace (by decide) c
    rw [Host.flag, Host.flagOr, Host.attr?, hn.json, Host.expand?, expand_braces hbraces, hone]
    rfl
  rw [Host.literal?, hvalue]
  dsimp only
  rw [hflag]
  dsimp only
  rw [literalOf, if_pos rfl, Json.read_compact hintegral hnesting]
  rfl

end Literals

/-! ## Nodes -/

namespace Run

theorem assign_apply (h : Host) (n : Node) (s : State) :
    assign h n s = match h.target n s.scope with
      | .error e => (.error (.error e), s)
      | .ok path => match h.literal? n s.scope with
        | .error e => (.error (.error e), s)
        | .ok v => (.ok .next, { s with scope := s.scope.set path (v.getD (.text "")) }) := by
  rw [assign, bind_apply, ask_apply]
  cases h.target n s.scope with
  | error e => rfl
  | ok path =>
    simp only [Except.mapError, bind_apply, ask_apply]
    cases h.literal? n s.scope <;> rfl

/-- **What is spliced through a template is copied.**  A node that writes a list or a record
into a field by way of its text leaves the very value there, the order of entries included, if
the numbers in it are integers and it is no deeper than JSON may be. -/
theorem splice_copies_container {h : Host} {n : Node} {s : State} {field name : String} {v : Value}
    (fuel : Nat) (hi : h.registry.find? n.name = some .assign)
    (hbraces : h.services.templates = .braces) (hn : n.Copies field name)
    (hfield : s.scope.IsSlot field) (hname : isName name.toList = true)
    (hv : s.scope.resolve name = some v) (hcontainer : v.IsContainer) (hintegral : v.Integral)
    (hnesting : v.nesting ≤ Json.maxDepth) :
    execute h (fuel + 1) n s =
        finished n (.ok .next, { beginning n s with scope := s.scope.set field v }) ∧
      (s.scope.set field v).get field = some v := by
  refine ⟨?_, Context.get_set hfield v⟩
  have hscope : (beginning n s).scope = s.scope := rfl
  rw [execute_known hi, perform, assign_apply, hscope, hn.target]
  simp only [hn.literal? hbraces hname hv hcontainer hintegral hnesting]
  rfl

/-- A node that copies `box` into `copy`. -/
def copyBox : Node :=
  { name := "set", attributes := [("ref", "copy"), ("value", "\x7bbox\x7d"), ("json", "1")] }

/-- A record with all that a text could trip over: references, quotes, backslashes, controls,
letters beyond ASCII, and the integers at both ends of the range. -/
def crowdedBox : Value :=
  .record [("\x7bbox\x7d", .text "\x7b\x7bbox\x7d \"\\n\\\" \x01\x1f\n é 𝄞"),
    ("", .list [.int (-9223372036854775808), .int 18446744073709551615, .null, .list []]),
    ("a", .record [("\"\x7d", .boolean false)])]

/-- The scope with the record in the form, and another value in the way of the copy. -/
def boxScope : Context := { form := [("box", crowdedBox)], fields := [("copy", .int 1)] }

theorem splice_copies_container_crowdedBox :
    let h := Host.ofLibrary {}
    let s := State.ofScope boxScope
    (h.registry.find? "set" = some .assign ∧ h.services.templates = .braces ∧
      copyBox.Copies "copy" "box" ∧ s.scope.IsSlot "copy" ∧ isName "box".toList = true ∧
      s.scope.resolve "box" = some crowdedBox ∧ crowdedBox.IsContainer ∧ crowdedBox.Integral ∧
      crowdedBox.nesting ≤ Json.maxDepth) ∧
    execute h 1 copyBox s =
        finished copyBox
          (.ok .next, { beginning copyBox s with scope := s.scope.set "copy" crowdedBox }) ∧
      (s.scope.set "copy" crowdedBox).get "copy" = some crowdedBox := by
  intro h s
  have hn : copyBox.Copies "copy" "box" := ⟨by decide, by decide, by decide, by decide⟩
  have hfield : s.scope.IsSlot "copy" := ⟨by decide, fun h => absurd h (by decide)⟩
  have hv : s.scope.resolve "box" = some crowdedBox := by decide
  have hnesting : crowdedBox.nesting ≤ Json.maxDepth := by decide
  have hitems : (Value.list [.int (-9223372036854775808), .int 18446744073709551615, .null,
      .list []]).Integral := by
    refine .list fun v hv => ?_
    simp only [List.mem_cons, List.not_mem_nil, or_false] at hv
    rcases hv with rfl | rfl | rfl | rfl
    · exact .integer (by decide) (by decide)
    · exact .integer (by decide) (by decide)
    · exact .null
    · exact .list (by simp)
  have hintegral : crowdedBox.Integral := by
    refine .record (by simp [Record.Distinct, Record.keys]) fun e he => ?_
    simp only [List.mem_cons, List.not_mem_nil, or_false] at he
    rcases he with rfl | rfl | rfl
    · exact .text _
    · exact hitems
    · refine .record (by simp [Record.Distinct, Record.keys]) fun e he => ?_
      rw [List.mem_singleton.1 he]
      exact .boolean false
  exact ⟨⟨rfl, rfl, hn, hfield, by decide, hv, trivial, hintegral, hnesting⟩,
    splice_copies_container 0 rfl rfl hn hfield (by decide) hv trivial hintegral hnesting⟩

end Run

end ActionTree
