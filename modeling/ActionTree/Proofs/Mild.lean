import ActionTree.Proofs.Leaf

/-!
# ActionTree.Proofs.Mild

Errors that are not fatal.

1. a question about a scope is answered, or refused with an error that a block may
   recover from (`Mild`).  The choice between the branches of a switch is the one
   exception: a branch of an unknown kind is a fatal error (`mild_select`);
2. so an instruction that executes no nodes further in fails mildly, if it fails at all
   (`perform_mild`).

A fatal error is raised by a name that the registry does not know, by one sub-program too
many, or by a program that cannot be loaded, and by nothing else.
-/

namespace ActionTree

open Run

/-! ## Questions -/

/-- Answered, or refused with an error that is not fatal. -/
def Mild {α : Type} (r : Except Error α) : Prop := ∀ e, r = .error e → e.isFatal = false

namespace Mild

variable {α β : Type}

theorem ok (a : α) : Mild (.ok a) := nofun

theorem error {e : Error} (he : e.isFatal = false) : Mild (.error e : Except Error α) := by
  intro e' h
  cases h
  exact he

/-- The error of one question passed on as that of another. -/
theorem passed {r : Except Error α} (hr : Mild r) {e : Error} (h : r = .error e) :
    Mild (.error e : Except Error β) := error (hr e h)

theorem map {r : Except Error α} (hr : Mild r) (f : α → β) : Mild (r.map f) := by
  cases r with
  | ok a => exact ok (f a)
  | error e => exact hr.passed rfl

end Mild

section Questions

variable (h : Host) (n : Node) (key : String) (c : Context)

/-! ### Attributes -/

theorem mild_field : Mild (n.field key) := by
  unfold Node.field
  split
  · exact .ok _
  · exact .error rfl

theorem mild_condition : Mild (n.condition key c) := by
  unfold Node.condition
  split
  · exact .ok _
  · split
    · exact .ok _
    · exact .error rfl

theorem mild_expand? (text : Option String) : Mild (h.expand? text c) := by
  unfold Host.expand?
  split
  · exact .ok _
  · unfold Host.expand
    split
    · exact .ok _
    · exact .error rfl

theorem mild_attr? : Mild (h.attr? n key c) := mild_expand? h c _

theorem mild_attr : Mild (h.attr n key c) := by
  unfold Host.attr
  split
  · exact .ok _
  · exact .error rfl
  · next e he => exact (mild_attr? h n key c).passed he

theorem mild_attrOrText? : Mild (h.attrOrText? n key c) := by
  unfold Host.attrOrText?
  split
  · exact .ok _
  · exact mild_expand? h c _
  · next e he => exact (mild_attr? h n key c).passed he

theorem mild_attrOrText : Mild (h.attrOrText n key c) := by
  unfold Host.attrOrText
  split
  · exact .ok _
  · exact .error rfl
  · next e he => exact (mild_attrOrText? h n key c).passed he

theorem mild_flagOr (absent : Bool) : Mild (h.flagOr n key absent c) :=
  (mild_attr? h n key c).map _

theorem mild_flag : Mild (h.flag n key c) := mild_flagOr h n key c false

theorem mild_integer? : Mild (h.integer? n key c) := by
  unfold Host.integer?
  split
  · next e he => exact (mild_attr? h n key c).passed he
  · exact .ok _
  · split
    · exact .ok _
    · exact .error rfl

/-! ### Fields and literals -/

theorem mild_target : Mild (h.target n c) := by
  unfold Host.target
  split
  · next e he => exact (mild_field n "ref").passed he
  · split
    · next e he => exact (mild_attr? h n "scope" c).passed he
    · split <;> exact .ok _

theorem mild_literal? : Mild (h.literal? n c) := by
  unfold Host.literal?
  split
  · next e he => exact (mild_attrOrText? h n "value" c).passed he
  · exact .ok _
  · split
    · next e he => exact (mild_flag h n "json" c).passed he
    · refine Mild.map ?_ some
      unfold literalOf
      split
      · split
        · exact .ok _
        · exact .error rfl
      · exact .ok _

/-! ### Replies, header lines and validators -/

theorem mild_status? : Mild (h.status? n c) := by
  unfold Host.status?
  split
  · next e he => exact (mild_integer? h n "status" c).passed he
  · exact .ok _
  · split
    · exact .ok _
    · exact .error rfl

theorem mild_payload : Mild (h.payload n c) := by
  unfold Host.payload
  split
  · exact .ok _
  · exact (mild_literal? h n c).map _

theorem mild_written : Mild (h.written n c) := by
  unfold Host.written
  split
  · next e he => exact (mild_attr? h n "value" c).passed he
  · exact .ok _
  · exact (mild_expand? h c n.text).map _

theorem mild_formatOf : Mild (h.formatOf n c) := by
  unfold Host.formatOf
  split
  · next e he => exact (mild_attr? h n "type" c).passed he
  · split
    · next e he => exact (mild_flagOr h n "strict" c true).passed he
    · dsimp only
      repeat' split
      all_goals first | exact .ok _ | exact .error rfl

theorem mild_directive : Mild (h.directive n c) := by
  unfold Host.directive
  split
  · next e he => exact (mild_attr h n "id" c).passed he
  · split
    · next e he => exact (mild_integer? h n "expires" c).passed he
    · exact .ok _

theorem mild_tag? : Mild (h.tag? n c) := (mild_attr? h n "etag" c).map _

theorem mild_date? : Mild (h.date? n c) := by
  unfold Host.date?
  split
  · next e he => exact (mild_attr? h n "timestamp" c).passed he
  · exact .ok _
  · split
    · exact .ok _
    · exact .error rfl

/-! ### Blocks and switches -/

theorem mild_privileged? : Mild (h.privileged? n key c) := (mild_attr? h n key c).map _

theorem mild_enters : Mild (h.enters n c) := by
  unfold Host.enters
  split
  · next e he => exact (mild_condition n "condition" c).passed he
  · exact .ok _
  · split
    · next e he => exact (mild_privileged? h n "requires" c).passed he
    · exact .ok _
    · split
      · next e he => exact (mild_privileged? h n "not-requires" c).passed he
      · exact .ok _

theorem mild_matches (subject : String) : Mild (h.matches n subject c) := by
  unfold Host.matches
  split
  · next e he => exact (mild_attr h n "pattern" c).passed he
  · split
    · exact .ok _
    · exact .error rfl

/-- A branch of a kind that there is. -/
theorem mild_fits (hkind : n.name ∈ Instruction.switchBranches) (subject : String) :
    Mild (h.fits n subject c) := by
  unfold Host.fits
  split
  · exact .ok _
  · exact .ok _
  · exact (mild_attr h n "value" c).map _
  · exact (mild_attr? h n "value" c).map _
  · split
    · exact mild_condition n "test" c
    · exact .error rfl
  · exact mild_matches h n c subject
  · exact .ok _
  · simp_all [Instruction.switchBranches]

theorem mild_select {branches : List Node} (hkinds : ∀ b ∈ branches,
    b.name ∈ Instruction.switchBranches) (subject : String) :
    Mild (h.select subject c branches) := by
  induction branches with
  | nil => exact .ok _
  | cons b bs ih =>
    unfold Host.select
    split
    · next e he => exact (mild_fits h b c (hkinds b List.mem_cons_self) subject).passed he
    · exact .ok _
    · exact ih fun b' hb => hkinds b' (List.mem_cons_of_mem _ hb)

/-! ### Loops -/

theorem mild_bound (start : Int) : Mild (h.bound n start c) := by
  unfold Host.bound
  split
  · next e he => exact (mild_integer? h n "to" c).passed he
  · exact .ok _
  · split
    · next e he => exact (mild_integer? h n "count" c).passed he
    · split
      · exact .ok _
      · exact .error rfl

theorem mild_progression : Mild (h.progression n c) := by
  unfold Host.progression
  split
  · next e he => exact (mild_integer? h n "from" c).passed he
  · split
    · next e he => exact (mild_bound h n c _).passed he
    · split
      · next e he => exact (mild_integer? h n "step" c).passed he
      · split
        · exact .error rfl
        · exact .ok _

theorem mild_listAt (source : String) : Mild (listAt n source c) := by
  unfold listAt
  split
  · exact .ok _
  · exact .ok _
  · exact .ok _
  · exact .error rfl

theorem mild_traversal : Mild (h.traversal n c) := by
  unfold Host.traversal
  split
  · next e he => exact (mild_attr h n "source" c).passed he
  · split
    · next e he => exact (mild_flag h n "reversed" c).passed he
    · split
      · next e he => exact (mild_attr? h n "update" c).passed he
      · split
        · next e he => exact (mild_listAt n c _).passed he
        · exact .ok _

/-! ### Calls -/

theorem mild_addParameters (r : Record) (ns : List Node) : Mild (h.addParameters c r ns) := by
  induction ns generalizing r with
  | nil => exact .ok _
  | cons child ns ih =>
    unfold Host.addParameters
    split
    · next e he =>
      refine Mild.passed ?_ he
      unfold Host.parameter
      split
      · next e he => exact (mild_field child "name").passed he
      · exact (mild_attrOrText? h child "value" c).map _
    · exact ih _

theorem mild_parameters : Mild (h.parameters n c) := by
  unfold Host.parameters
  split
  · next e he => exact (mild_attr? h n "pass" c).passed he
  · exact mild_addParameters h c _ _

end Questions

/-! ## Runs -/

/-- An error that is not fatal. -/
def Failure.IsMild : Failure → Prop
  | .error e => e.isFatal = false
  | .outOfFuel => False

namespace Run

/-- If a run fails, it fails with an error that is not fatal. -/
def FailsMildly {α : Type} (x : Run α) : Prop := ∀ s e, (x s).1 = .error e → e.IsMild

namespace FailsMildly

variable {α β : Type}

theorem pure (a : α) : FailsMildly (Pure.pure a : Run α) := by
  intro s e he
  rw [pure_apply] at he
  contradiction

theorem fail {e : Error} (he : e.isFatal = false) : FailsMildly (Run.fail e : Run α) := by
  intro s e' he'
  rw [fail_apply] at he'
  cases he'
  exact he

theorem scope : FailsMildly Run.scope := by
  intro s e he
  rw [scope_apply] at he
  contradiction

theorem updateScope (f : Context → Context) : FailsMildly (Run.updateScope f) := by
  intro s e he
  rw [updateScope_apply] at he
  contradiction

theorem updateOutput (f : Settings → Settings) : FailsMildly (Run.updateOutput f) := by
  intro s e he
  rw [updateOutput_apply] at he
  contradiction

theorem record (e : Event) : FailsMildly (Run.record e) := by
  intro s e he
  rw [record_apply] at he
  contradiction

theorem ofExcept {r : Except Error α} (hr : Mild r) : FailsMildly (Run.ofExcept r) := by
  cases r with
  | ok a => exact pure a
  | error e => exact fail (hr e rfl)

theorem bind {x : Run α} {f : α → Run β} (hx : FailsMildly x) (hf : ∀ a, FailsMildly (f a)) :
    FailsMildly (x >>= f) := by
  intro s e he
  have hs := hx s
  rw [bind_apply] at he
  rcases hr : x s with ⟨failure | a, t⟩
  · rw [hr] at hs he
    have hfailure : failure = e := Except.error.inj he
    exact hs e (by rw [hfailure])
  · rw [hr] at he
    exact hf a t e he

theorem ask {question : Context → Except Error α} (hq : ∀ c, Mild (question c)) :
    FailsMildly (Run.ask question) := bind scope fun c => ofExcept (hq c)

end FailsMildly

variable (h : Host) (n : Node)

theorem consult_mild {α : Type} (question : Database → Answer α) :
    FailsMildly (consult h question) := by
  unfold consult
  split
  · exact .fail rfl
  · next db hdb =>
    have hanswer : Mild ((question db).result.mapError Error.service) := by
      cases (question db).result with
      | ok a => exact .ok a
      | error cause => cases cause <;> exact .error rfl
    dsimp only
    split
    · exact .bind (.record _) fun _ => .ofExcept hanswer
    · exact .ofExcept hanswer

theorem writeRows_mild (view : List Record → Value) : FailsMildly (writeRows h n view) :=
  .bind (.ask (mild_attrOrText h n "sql")) fun _ => .bind (.ask (mild_target h n)) fun _ =>
    .bind (consult_mild h _) fun _ => .bind (.updateScope _) fun _ => .pure _

theorem signal_mild (flow : Flow) : FailsMildly (signal n flow) :=
  .bind (.ask (mild_condition n "condition")) fun _ => .pure _

/-- An instruction that executes no nodes further in fails mildly, if it fails. -/
theorem perform_mild {fuel : Nat} {exec : Node → Run Flow} {i : Instruction}
    (hi : i.isLeaf = true) : FailsMildly (perform h fuel exec i n) := by
  cases i with
  | assign =>
    exact .bind (.ask (mild_target h n)) fun _ => .bind (.ask (mild_literal? h n)) fun _ =>
      .bind (.updateScope _) fun _ => .pure _
  | unset => exact .bind (.ask (mild_target h n)) fun _ => .bind (.updateScope _) fun _ => .pure _
  | push =>
    exact .bind (.ask (mild_target h n)) fun _ => .bind (.ask (mild_literal? h n)) fun _ =>
      .bind (.updateScope _) fun _ => .pure _
  | skip => exact signal_mild n _
  | leave => exact signal_mild n _
  | stop => exact signal_mild n _
  | reply =>
    refine .bind (.ask (mild_payload h n)) fun payload => .bind (.ask (mild_status? h n))
      fun status => ?_
    cases status with
    | none => exact .pure _
    | some status => exact .bind (.ask (mild_attr? h n "message")) fun _ => .pure _
  | fail =>
    exact .bind (.ask (mild_status? h n)) fun _ => .bind (.ask (mild_attrOrText? h n "message"))
      fun _ => .fail rfl
  | scalar => exact writeRows_mild h n _
  | assoc => exact writeRows_mild h n _
  | query => exact writeRows_mild h n _
  | user => exact .bind (.ask (mild_target h n)) fun _ => .bind (.updateScope _) fun _ => .pure _
  | require =>
    refine .bind (.ask (mild_attr h n "privilege")) fun privilege => ?_
    split
    · exact .pure _
    · exact .fail rfl
  | header =>
    exact .bind (.ask (mild_attrOrText h n "line")) fun _ =>
      .bind (.updateOutput _) fun _ => .pure _
  | write => exact .bind (.ask (mild_written h n)) fun _ => .bind (.updateOutput _) fun _ => .pure _
  | log =>
    exact .bind (.ask (mild_attrOrText? h n "message")) fun _ => .bind .scope fun _ =>
      .bind (.record _) fun _ => .pure _
  | format =>
    exact .bind (.ask (mild_formatOf h n)) fun _ => .bind (.updateOutput _) fun _ => .pure _
  | compress =>
    exact .bind (.ask fun c => mild_flagOr h n "enabled" c true) fun _ =>
      .bind (.updateOutput _) fun _ => .pure _
  | notModified =>
    refine .bind (.ask (mild_tag? h n)) fun tag => .bind (.ask (mild_date? h n)) fun date => ?_
    split
    · exact .bind (.updateOutput _) fun _ => .pure _
    · exact .bind (.updateOutput _) fun _ => .pure _
  | marker => exact .pure _
  | block | switch | loop | traverse | stackLoop | reader | evaluate | call | cache =>
    simp [Instruction.isLeaf] at hi

/-! ### What other instructions do of their own -/

/-- A block that does not recover from a mild error passes it on. -/
theorem recover_mild {e : Error} (he : e.isFatal = false) : FailsMildly (recover h n e) := by
  refine .bind (.ask (mild_flag h n "inhibit")) fun inhibited => ?_
  cases inhibited with
  | true => exact .bind (.updateScope _) fun _ => .pure _
  | false =>
    refine .bind (.ask (mild_attr? h n "failureMsg")) fun message => ?_
    cases message with
    | some message => exact .pure _
    | none => exact .fail he

theorem pop_mild (source : String) : FailsMildly (pop source) := by
  refine .bind .scope fun c => ?_
  split
  · split
    · exact .pure _
    · exact .bind (.updateScope _) fun _ => .pure _
  · exact .pure _

theorem endOfRows_mild (cursor : Cursor) : FailsMildly (endOfRows cursor) := by
  unfold endOfRows
  split
  · exact .pure _
  · exact .fail rfl

theorem passOn_mild (control : Bool) (flow : Flow) : FailsMildly (passOn n control flow) := by
  cases flow with
  | reply r =>
    cases control with
    | true => exact .pure _
    | false => exact .bind (.updateScope _) fun _ => .pure _
  | _ => exact .pure _

end Run

end ActionTree
