import ActionTree.Proofs.Record
import ActionTree.Proofs.Run

/-!
# ActionTree.Proofs.Leaf

What an instruction can do that executes no nodes further in.

1. it writes fields and the form, and leaves the position, the base and the depth
   of the scope alone;
2. it puts down remarks in the journal, and nothing that tells of other nodes;
3. it adds to the header lines and to the text, and takes nothing from them.

`Local` says all of it, so that what follows from it is never shown instruction by
instruction.  The one that may replay a stored response stands apart: `cache_apply` says
what it does.
-/

namespace ActionTree

open Run

/-! ## Scopes -/

/-- A change of a scope that leaves its place in the program alone. -/
structure Context.Stays (c c' : Context) : Prop where
  index : c'.index = c.index
  base : c'.base = c.base
  depth : c'.depth = c.depth
  distinct : Record.Distinct c.fields → Record.Distinct c'.fields

namespace Context

theorem Stays.refl (c : Context) : c.Stays c := ⟨rfl, rfl, rfl, id⟩

theorem Stays.trans {c d e : Context} (hcd : c.Stays d) (hde : d.Stays e) : c.Stays e :=
  ⟨hde.index.trans hcd.index, hde.base.trans hcd.base, hde.depth.trans hcd.depth,
    fun h => hde.distinct (hcd.distinct h)⟩

/-- Writing into the form leaves all else alone. -/
theorem stays_form (c : Context) (form : Record) : c.Stays { c with form := form } :=
  ⟨rfl, rfl, rfl, id⟩

theorem stays_set (c : Context) (path : String) (v : Value) : c.Stays (c.set path v) := by
  unfold set
  split
  · exact stays_form c _
  · split
    · exact stays_form c _
    · exact ⟨rfl, rfl, rfl, fun h => Record.distinct_assign h path v⟩

theorem stays_remove? {c c' : Context} {path : String} {v : Value}
    (h : c.remove? path = some (v, c')) : c.Stays c' := by
  unfold remove? at h
  split at h
  · simp only [Option.map_eq_some_iff, Prod.mk.injEq, Prod.exists] at h
    obtain ⟨w, r, -, -, rfl⟩ := h
    exact stays_form c r
  · simp only [Option.map_eq_some_iff, Prod.mk.injEq, Prod.exists] at h
    obtain ⟨w, r, hr, -, rfl⟩ := h
    exact ⟨rfl, rfl, rfl, fun hd => Record.distinct_remove? hd hr⟩

theorem stays_update? {c c' : Context} {path : String} {f : Value → Value}
    (h : c.update? path f = some c') : c.Stays c' := by
  unfold update? at h
  split at h
  · simp only [Option.map_eq_some_iff] at h
    obtain ⟨r, -, rfl⟩ := h
    exact stays_form c r
  · simp only [Option.map_eq_some_iff] at h
    obtain ⟨r, hr, rfl⟩ := h
    exact ⟨rfl, rfl, rfl, fun hd => Record.distinct_update? hd hr⟩

theorem stays_push (c : Context) (path : String) (v : Value) : c.Stays (c.push path v) := by
  unfold push
  split
  · next h => exact stays_update? h
  · exact stays_set c path _

/-- A scope that was entered is one deeper, and otherwise the same. -/
theorem enter?_eq_some {c inner : Context} {limit : Nat} :
    c.enter? limit = some inner ↔ c.depth < limit ∧ inner = { c with depth := c.depth + 1 } := by
  rw [enter?, Option.ite_none_right_eq_some, Option.some.injEq, eq_comm (a := inner)]

/-- Only the limit keeps a scope from being entered. -/
theorem enter?_eq_none {c : Context} {limit : Nat} :
    c.enter? limit = none ↔ limit ≤ c.depth := by
  rw [enter?, ite_eq_right_iff]
  simp

end Context

/-! ## States -/

/-- An event that tells of no node, of no sub-program and of no stored response. -/
def Event.isRemark : Event → Bool
  | .logged _ _ _ | .queried _ => true
  | _ => false

/-- Nothing was put down in the journal but remarks. -/
def Remarks (s s' : State) : Prop :=
  ∃ new, s'.journal = new ++ s.journal ∧ ∀ e ∈ new, e.isRemark = true

theorem remarks_of_eq {s s' : State} (h : s'.journal = s.journal) : Remarks s s' :=
  ⟨[], h, by simp⟩

instance : Frame Remarks where
  refl s := remarks_of_eq rfl
  trans {s t u} hst htu := by
    obtain ⟨new, hnew, hremark⟩ := hst
    obtain ⟨newer, hnewer, hremarks⟩ := htu
    refine ⟨newer ++ new, by rw [hnewer, hnew, List.append_assoc], fun e he => ?_⟩
    rcases List.mem_append.mp he with he | he
    · exact hremarks e he
    · exact hremark e he

/-- What an instruction can do that executes no nodes further in. -/
structure Local (s s' : State) : Prop where
  scope : s.scope.Stays s'.scope
  programs : s'.programs = s.programs
  journal : Remarks s s'
  batch : s'.output.batch = s.output.batch
  replay : s'.output.replay = s.output.replay
  headers : s.output.headers <+: s'.output.headers
  written : s.output.written.toList <+: s'.output.written.toList

instance : Frame Local where
  refl s := ⟨.refl _, rfl, Frame.refl s, rfl, rfl, List.prefix_rfl, List.prefix_rfl⟩
  trans hst htu :=
    ⟨hst.scope.trans htu.scope, htu.programs.trans hst.programs,
      Frame.trans hst.journal htu.journal, htu.batch.trans hst.batch,
      htu.replay.trans hst.replay, hst.headers.trans htu.headers, hst.written.trans htu.written⟩

/-- Nothing was changed but the programs that are kept. -/
def Loads (s s' : State) : Prop := ∃ programs, s' = { s with programs := programs }

instance : Frame Loads where
  refl s := ⟨s.programs, rfl⟩
  trans {s t u} hst htu := by
    obtain ⟨_, rfl⟩ := hst
    obtain ⟨programs, rfl⟩ := htu
    exact ⟨programs, rfl⟩

theorem Loads.remarks {s s' : State} (h : Loads s s') : Remarks s s' := by
  obtain ⟨programs, rfl⟩ := h
  exact remarks_of_eq rfl

namespace Local

theorem ofScope {s : State} {c : Context} (h : s.scope.Stays c) :
    Local s { s with scope := c } :=
  ⟨h, rfl, remarks_of_eq rfl, rfl, rfl, List.prefix_rfl, List.prefix_rfl⟩

theorem ofOutput {s : State} {o : Settings} (hb : o.batch = s.output.batch)
    (hr : o.replay = s.output.replay) (hh : s.output.headers <+: o.headers)
    (hw : s.output.written.toList <+: o.written.toList) :
    Local s { s with output := o } :=
  ⟨.refl _, rfl, remarks_of_eq rfl, hb, hr, hh, hw⟩

theorem ofRemark (s : State) {e : Event} (he : e.isRemark = true) :
    Local s { s with journal := e :: s.journal } :=
  ⟨.refl _, rfl, ⟨[e], rfl, by simpa using he⟩, rfl, rfl, List.prefix_rfl, List.prefix_rfl⟩

theorem updateScope {f : Context → Context} (hf : ∀ c : Context, c.Stays (f c)) :
    Keeps Local (Run.updateScope f) := fun s => ofScope (hf s.scope)

theorem record {e : Event} (he : e.isRemark = true) : Keeps Local (Run.record e) :=
  fun s => ofRemark s he

/-- Settings other than the header lines, the text and the replay may be set at will. -/
theorem updateOutput {f : Settings → Settings} (hb : ∀ o, (f o).batch = o.batch)
    (hr : ∀ o, (f o).replay = o.replay) (hh : ∀ o, o.headers <+: (f o).headers)
    (hw : ∀ o, o.written.toList <+: (f o).written.toList) : Keeps Local (Run.updateOutput f) :=
  fun s => ofOutput (hb s.output) (hr s.output) (hh s.output) (hw s.output)

theorem appendHeaders (lines : List String) :
    Keeps Local (Run.updateOutput fun o => { o with headers := o.headers ++ lines }) :=
  updateOutput (fun _ => rfl) (fun _ => rfl) (fun _ => List.prefix_append _ _)
    fun _ => List.prefix_rfl

end Local

/-! ## Instructions -/

/-- An instruction that executes no nodes further in and replays no stored response. -/
def Instruction.isLeaf : Instruction → Bool
  | block | switch | loop | traverse | stackLoop | reader | evaluate | call | cache => false
  | _ => true

namespace Run

variable (h : Host) (n : Node)

theorem assign_local : Keeps Local (assign h n) :=
  .bind (.ask _) fun path => .bind (.ask _) fun _ =>
    .bind (Local.updateScope fun c => c.stays_set path _) fun _ => .pure _

theorem unset_local : Keeps Local (unset h n) := by
  refine .bind (.ask _) fun path => .bind (Local.updateScope fun c => ?_) fun _ => .pure _
  split
  · next hr => exact Context.stays_remove? hr
  · exact .refl c

theorem push_local : Keeps Local (push h n) :=
  .bind (.ask _) fun path => .bind (.ask _) fun _ =>
    .bind (Local.updateScope fun c => c.stays_push path _) fun _ => .pure _

theorem user_local : Keeps Local (user h n) :=
  .bind (.ask _) fun path =>
    .bind (Local.updateScope fun c => c.stays_set path _) fun _ => .pure _

theorem consult_local {α : Type} (question : Database → Answer α) :
    Keeps Local (consult h question) := by
  unfold consult
  split
  · exact .fail _
  · dsimp only
    split
    · exact .bind (Local.record rfl) fun _ => .ofExcept _
    · exact .ofExcept _

theorem writeRows_local (view : List Record → Value) : Keeps Local (writeRows h n view) :=
  .bind (.ask _) fun _ => .bind (.ask _) fun path => .bind (consult_local h _) fun _ =>
    .bind (Local.updateScope fun c => c.stays_set path _) fun _ => .pure _

theorem signal_local (flow : Flow) : Keeps Local (signal n flow) :=
  .bind (.ask _) fun _ => .pure _

theorem reply_local : Keeps Local (reply h n) := by
  refine .bind (.ask _) fun payload => .bind (.ask _) fun status => ?_
  cases status with
  | none => exact .pure _
  | some status => exact .bind (.ask _) fun _ => .pure _

theorem failWith_local : Keeps Local (failWith h n) :=
  .bind (.ask _) fun _ => .bind (.ask _) fun _ => .fail _

theorem require_local : Keeps Local (require h n) := by
  refine .bind (.ask _) fun privilege => ?_
  split
  · exact .pure _
  · exact .fail _

theorem header_local : Keeps Local (header h n) :=
  .bind (.ask _) fun line => .bind (Local.appendHeaders [line]) fun _ => .pure _

theorem write_local : Keeps Local (write h n) := by
  refine .bind (.ask _) fun text => .bind ?_ fun _ => .pure _
  refine Local.updateOutput (fun _ => rfl) (fun _ => rfl) (fun _ => List.prefix_rfl) fun o => ?_
  rw [String.toList_append]
  exact List.prefix_append _ _

theorem log_local : Keeps Local (log h n) :=
  .bind (.ask _) fun _ => .bind .scope fun _ => .bind (Local.record rfl) fun _ => .pure _

theorem format_local : Keeps Local (format h n) :=
  .bind (.ask _) fun _ => .bind
    (Local.updateOutput (fun _ => rfl) (fun _ => rfl) (fun _ => List.prefix_rfl)
      fun _ => List.prefix_rfl)
    fun _ => .pure _

theorem compress_local : Keeps Local (compress h n) :=
  .bind (.ask _) fun _ => .bind
    (Local.updateOutput (fun _ => rfl) (fun _ => rfl) (fun _ => List.prefix_rfl)
      fun _ => List.prefix_rfl)
    fun _ => .pure _

theorem notModified_local : Keeps Local (notModified h n) := by
  refine .bind (.ask _) fun tag => .bind (.ask _) fun date => ?_
  split
  · exact .bind (Local.appendHeaders _) fun _ => .pure _
  · exact .bind (Local.appendHeaders _) fun _ => .pure _

/-- An instruction without nodes further in changes no more than `Local` says. -/
theorem perform_local {fuel : Nat} {exec : Node → Run Flow} {i : Instruction}
    (hi : i.isLeaf = true) : Keeps Local (perform h fuel exec i n) := by
  cases i with
  | assign => exact assign_local h n
  | unset => exact unset_local h n
  | push => exact push_local h n
  | skip => exact signal_local n _
  | leave => exact signal_local n _
  | stop => exact signal_local n _
  | reply => exact reply_local h n
  | fail => exact failWith_local h n
  | scalar => exact writeRows_local h n _
  | assoc => exact writeRows_local h n _
  | query => exact writeRows_local h n _
  | user => exact user_local h n
  | require => exact require_local h n
  | header => exact header_local h n
  | write => exact write_local h n
  | log => exact log_local h n
  | format => exact format_local h n
  | compress => exact compress_local h n
  | notModified => exact notModified_local h n
  | marker => exact .pure _
  | block | switch | loop | traverse | stackLoop | reader | evaluate | call | cache =>
    simp [Instruction.isLeaf] at hi

/-- Neither the fuel nor how nodes are executed makes a difference to such an instruction. -/
theorem perform_leaf {fuel fuel' : Nat} {exec exec' : Node → Run Flow} {i : Instruction}
    (hi : i.isLeaf = true) : perform h fuel exec i n = perform h fuel' exec' i n := by
  cases i with
  | block | switch | loop | traverse | stackLoop | reader | evaluate | call | cache =>
    simp [Instruction.isLeaf] at hi
  | _ => rfl

/-! ## Stored responses -/

/-- A stored response is found, and the program stops; or the response is to be stored. -/
theorem consultCache_apply (d : Directive) (s : State) :
    consultCache h d s = match h.stored d.id d.seconds with
      | some hit => (.ok .stop, { s with
          output := { s.output with replay := some hit }, journal := .replayed d.id :: s.journal })
      | none => (.ok .next, { s with output := { s.output with directive := some d } }) := by
  unfold consultCache
  cases h.stored d.id d.seconds <;> rfl

/-- No stored response is looked for in a batch. -/
theorem cache_apply (s : State) :
    cache h n s = if s.output.batch then (.ok .next, s) else
      match h.directive n s.scope with
      | .error e => (.error (.error e), s)
      | .ok d => consultCache h d s := by
  rw [cache, bind_apply, output_apply]
  dsimp only
  split
  · rfl
  · rw [bind_apply, ask_apply]
    cases h.directive n s.scope <;> rfl

theorem cache_scope (s : State) : (cache h n s).2.scope = s.scope := by
  rw [cache_apply]
  split
  · rfl
  · cases h.directive n s.scope with
    | error e => rfl
    | ok d =>
      dsimp only
      rw [consultCache_apply]
      cases h.stored d.id d.seconds <;> rfl

/-! ## What other instructions do of their own -/

theorem recover_local (e : Error) : Keeps Local (recover h n e) := by
  refine .bind (.ask _) fun inhibited => ?_
  cases inhibited with
  | true => exact .bind (Local.updateScope fun c => c.stays_set _ _) fun _ => .pure _
  | false =>
    refine .bind (.ask _) fun message => ?_
    cases message with
    | some message => exact .pure _
    | none => exact .fail e

theorem pop_local (source : String) : Keeps Local (pop source) := by
  refine .bind .scope fun c => ?_
  split
  · split
    · exact .pure _
    · refine .bind (Local.updateScope fun c => ?_) fun _ => .pure _
      cases hu : c.update? source fun _ => .list _ with
      | none => exact .refl c
      | some c' => exact Context.stays_update? hu
  · exact .pure _

theorem endOfRows_local (cursor : Cursor) : Keeps Local (endOfRows cursor) := by
  unfold endOfRows
  split
  · exact .pure _
  · exact .fail _

theorem passOn_local (control : Bool) (flow : Flow) : Keeps Local (passOn n control flow) := by
  cases flow with
  | reply r =>
    cases control with
    | true => exact .pure _
    | false => exact .bind (Local.updateScope fun c => c.stays_set _ _) fun _ => .pure _
  | _ => exact .pure _

/-- Looking for a program may read it, and changes nothing else. -/
theorem target_loads : Keeps Loads (target h n) := by
  refine .bind (.ask _) fun src => .bind .scope fun c =>
    .bind (fun s => ⟨_, rfl⟩) fun loaded => ?_
  split
  · exact .pure _
  · refine .bind (.ask _) fun inhibited => ?_
    cases inhibited with
    | true => exact .pure _
    | false => exact .pure _
  · exact .fail _

end Run

end ActionTree
