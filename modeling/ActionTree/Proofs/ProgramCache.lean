import ActionTree.Proofs.Twin

/-!
# ActionTree.Proofs.ProgramCache

The programs that are kept make no difference.

1. what is kept under an id is *faithful* if, as long as the source reports the stamp
   of it, reading the program afresh would give the same;
2. a library counts its insertions, so no stamp ever comes back: whatever is inserted,
   loaded, run or forgotten, all that is kept stays faithful (`Sound`, `sound_after`);
3. so a load gives what the last insertion calls for, and a run goes as it would with
   nothing kept at all (`programs_kept_transparently`).
-/

namespace ActionTree

open Run (executeProgram)

/-! ## Looking up -/

theorem lookup_cons_eq {β : Type} (name key : String) (b : β) (entries : List (String × β)) :
    ((name, b) :: entries).lookup key = if key = name then some b else entries.lookup key := by
  rw [List.lookup_cons]
  by_cases hkey : key = name
  · simp [hkey]
  · rw [if_neg hkey, beq_eq_false_iff_ne.mpr hkey]

/-- A key that was struck out is not found, and every other one is found as before. -/
theorem lookup_struck {β : Type} (entries : List (String × β)) (id key : String) :
    (entries.filter fun e => e.1 != id).lookup key =
      if key = id then none else entries.lookup key := by
  induction entries with
  | nil => simp
  | cons e entries ih =>
    obtain ⟨name, b⟩ := e
    by_cases hname : name = id
    · subst hname
      rw [List.filter_cons_of_neg (by simp), ih, lookup_cons_eq]
      split <;> rfl
    · rw [List.filter_cons_of_pos (by simpa using hname), lookup_cons_eq, lookup_cons_eq, ih]
      by_cases hkey : key = name
      · rw [if_pos hkey, if_pos hkey, if_neg (by rwa [hkey])]
      · rw [if_neg hkey, if_neg hkey]

/-- What is found once an entry was put in front and its key struck out behind it. -/
theorem lookup_replaced {β : Type} (entries : List (String × β)) (id key : String) (b : β) :
    ((id, b) :: entries.filter fun e => e.1 != id).lookup key =
      if key = id then some b else entries.lookup key := by
  rw [lookup_cons_eq, lookup_struck]
  split <;> rfl

theorem Library.get?_insert (l : Library) (id key : String) (nodes : List Node) :
    (l.insert id nodes).get? key =
      if key = id then some (l.insertions + 1, nodes) else l.get? key :=
  lookup_replaced l.shelf id key _

theorem Library.nodes_insert (l : Library) (id key : String) (nodes : List Node) :
    (l.insert id nodes).source.nodes key =
      if key = id then .ok nodes else l.source.nodes key := by
  unfold source
  dsimp only
  rw [get?_insert]
  by_cases hkey : key = id
  · rw [if_pos hkey, if_pos hkey]
  · rw [if_neg hkey, if_neg hkey]

namespace ProgramCache

variable {source : Source} {registry : Registry} {c : ProgramCache}

theorem get?_erase (c : ProgramCache) (id key : String) :
    (c.erase id).get? key = if key = id then none else c.get? key := lookup_struck c id key

theorem get?_insert (c : ProgramCache) (p : Program) (key : String) :
    (c.insert p).get? key = if key = p.id then some p else c.get? key :=
  lookup_replaced c p.id key p

theorem current?_eq_some {id : String} {stamp : Stamp} {p : Program} :
    c.current? id stamp = some p ↔ c.get? id = some p ∧ p.stamp = stamp := by
  simp [current?, Option.filter_eq_some_iff]

/-! ## Loading -/

theorem readFresh_eq_ok {id : String} {stamp : Stamp} {p : Program} :
    readFresh source registry id stamp = .ok p ↔
      ∃ nodes, source.nodes id = .ok nodes ∧ registry.check nodes = .ok () ∧
        ⟨id, nodes, stamp⟩ = p := by
  unfold readFresh
  cases hnodes : source.nodes id with
  | error e => simp
  | ok nodes =>
    cases hcheck : registry.check nodes with
    | error e => simp [hcheck]
    | ok u => simp [hcheck]

/-- A load fails and leaves all as it was, gives the program that is kept, or gives one
that is read afresh and kept from then on. -/
theorem load_cases (c : ProgramCache) (source : Source) (registry : Registry) (id : String) :
    (∃ e, c.load source registry id = (.error e, c)) ∨
      (∃ stamp p, source.stamp id = .ok stamp ∧ c.current? id stamp = some p ∧
        c.load source registry id = (.ok p, c)) ∨
      (∃ stamp p, source.stamp id = .ok stamp ∧ readFresh source registry id stamp = .ok p ∧
        c.load source registry id = (.ok p, c.insert p)) := by
  unfold load
  cases hstamp : source.stamp id with
  | error e => exact .inl ⟨e, rfl⟩
  | ok stamp =>
    dsimp only
    cases hp : c.current? id stamp with
    | some p => exact .inr (.inl ⟨stamp, p, rfl, hp, rfl⟩)
    | none =>
      cases hread : readFresh source registry id stamp with
      | error e => exact .inl ⟨e, rfl⟩
      | ok p => exact .inr (.inr ⟨stamp, p, rfl, hread, rfl⟩)

/-- A load that fails leaves what is kept as it was. -/
theorem load_error {id : String} {e : Error} (he : (c.load source registry id).1 = .error e) :
    (c.load source registry id).2 = c := by
  obtain ⟨e', h⟩ | ⟨stamp, p, -, -, h⟩ | ⟨stamp, p, -, -, h⟩ := load_cases c source registry id
  · rw [h]
  · rw [h]
  · rw [h] at he
    contradiction

/-- A program that was read is found again from then on. -/
theorem load_insert {id : String} {stamp : Stamp} {p : Program}
    (hstamp : source.stamp id = .ok stamp) (hread : readFresh source registry id stamp = .ok p) :
    (c.insert p).load source registry id = (.ok p, c.insert p) := by
  obtain ⟨nodes, -, -, rfl⟩ := readFresh_eq_ok.mp hread
  have hcurrent : (c.insert ⟨id, nodes, stamp⟩).current? id stamp = some ⟨id, nodes, stamp⟩ :=
    current?_eq_some.mpr ⟨by rw [get?_insert, if_pos rfl], rfl⟩
  simp only [load, hstamp, hcurrent]

/-- What a load gives depends on what is kept under its own id only. -/
theorem load_congr {c c' : ProgramCache} {key : String} (hget : c.get? key = c'.get? key) :
    (c.load source registry key).1 = (c'.load source registry key).1 := by
  have hcurrent (stamp : Stamp) : c.current? key stamp = c'.current? key stamp := by
    rw [current?, current?, hget]
  unfold load
  cases source.stamp key with
  | error e => rfl
  | ok stamp =>
    dsimp only
    rw [hcurrent]
    cases c'.current? key stamp with
    | some p => rfl
    | none => cases readFresh source registry key stamp <;> rfl

/-- A load changes no later one: what it keeps, the later one would have read. -/
theorem load_load (c : ProgramCache) (source : Source) (registry : Registry) (id key : String) :
    ((c.load source registry id).2.load source registry key).1 =
      (c.load source registry key).1 := by
  obtain ⟨e, h⟩ | ⟨stamp, p, -, -, h⟩ | ⟨stamp, p, hstamp, hread, h⟩ :=
    load_cases c source registry id
  · rw [h]
  · rw [h]
  · by_cases hkey : key = id
    · subst hkey
      rw [h, load_insert hstamp hread]
    · rw [h]
      obtain ⟨nodes, -, -, rfl⟩ := readFresh_eq_ok.mp hread
      exact load_congr (by rw [get?_insert, if_neg hkey])

/-! ## Faithful programs -/

/-- What is kept with the stamp that its source reports is what reading it afresh gives. -/
def Faithful (source : Source) (registry : Registry) (c : ProgramCache) : Prop :=
  ∀ id stamp p, source.stamp id = .ok stamp → c.current? id stamp = some p →
    readFresh source registry id stamp = .ok p

/-- From faithful programs a load gives what it gives with nothing kept. -/
theorem Faithful.load_eq (hc : Faithful source registry c) (id : String) :
    (c.load source registry id).1 = (load [] source registry id).1 := by
  unfold load
  cases hstamp : source.stamp id with
  | error e => rfl
  | ok stamp =>
    have hempty : current? [] id stamp = none := rfl
    dsimp only
    rw [hempty]
    cases hp : c.current? id stamp with
    | some p => rw [hc id stamp p hstamp hp]
    | none => cases readFresh source registry id stamp <;> rfl

theorem Faithful.insert (hc : Faithful source registry c) {id : String} {stamp : Stamp}
    {p : Program} (hread : readFresh source registry id stamp = .ok p) :
    Faithful source registry (c.insert p) := by
  intro key stamp' p' hstamp hcurrent
  obtain ⟨hget, rfl⟩ := current?_eq_some.mp hcurrent
  obtain ⟨nodes, -, -, rfl⟩ := readFresh_eq_ok.mp hread
  rw [get?_insert] at hget
  split at hget
  · next hkey =>
    cases hget
    rw [hkey]
    exact hread
  · exact hc key _ p' hstamp (current?_eq_some.mpr ⟨hget, rfl⟩)

theorem Faithful.erase (hc : Faithful source registry c) (id : String) :
    Faithful source registry (c.erase id) := by
  intro key stamp p hstamp hcurrent
  obtain ⟨hget, hp⟩ := current?_eq_some.mp hcurrent
  rw [get?_erase, Option.ite_none_left_eq_some] at hget
  exact hc key stamp p hstamp (current?_eq_some.mpr ⟨hget.2, hp⟩)

/-- Kinds of caches from which every load gives what it gives with nothing kept, and
leaves a cache of the same kind. -/
structure Transparent (source : Source) (registry : Registry) (C : ProgramCache → Prop) :
    Prop where
  load : ∀ {c}, C c → ∀ id,
    (c.load source registry id).1 = (ProgramCache.load [] source registry id).1
  kept : ∀ {c}, C c → ∀ id, C (c.load source registry id).2

end ProgramCache

/-! ## Runs -/

/-- The states are the same but for the programs that they keep, which are of one kind. -/
structure SameButPrograms (C : ProgramCache → Prop) (s t : State) : Prop where
  scope : s.scope = t.scope
  output : s.output = t.output
  journal : s.journal = t.journal
  left : C s.programs
  right : C t.programs

/-- Programs that are kept make no difference if every load gives the same from all caches of
their kind. -/
theorem twins_of_load {h : Host} {C : ProgramCache → Prop} {found : String → Except Error Program}
    (hload : ∀ {c}, C c → ∀ id, (c.load h.source h.registry id).1 = found id)
    (hkept : ∀ {c}, C c → ∀ id, C (c.load h.source h.registry id).2) :
    Twins h (SameButPrograms C) where
  scope hst := hst.scope
  output hst := hst.output
  setScope hst _ := ⟨rfl, hst.output, hst.journal, hst.left, hst.right⟩
  setOutput hst _ := ⟨hst.scope, rfl, hst.journal, hst.left, hst.right⟩
  record hst e := ⟨hst.scope, hst.output, congrArg (e :: ·) hst.journal, hst.left, hst.right⟩
  load hst id :=
    ⟨(hload hst.left id).trans (hload hst.right id).symm,
      ⟨hst.scope, hst.output, hst.journal, hkept hst.left id, hkept hst.right id⟩⟩

theorem ProgramCache.Transparent.twins {h : Host} {C : ProgramCache → Prop}
    (hC : ProgramCache.Transparent h.source h.registry C) : Twins h (SameButPrograms C) :=
  twins_of_load hC.load hC.kept

/-- Every load from a cache gives what it gives from a given one. -/
def ProgramCache.LoadsLike (source : Source) (registry : Registry) (c₀ c : ProgramCache) : Prop :=
  ∀ id, (c.load source registry id).1 = (c₀.load source registry id).1

/-- What was loaded before makes no difference to a run. -/
theorem ProgramCache.twins_loadsLike (h : Host) (c₀ : ProgramCache) :
    Twins h (SameButPrograms (LoadsLike h.source h.registry c₀)) := by
  refine twins_of_load (fun hc id => hc id) fun {c} hc id key => ?_
  rw [load_load]
  exact hc key

namespace Engine

variable {e : Engine} {C : ProgramCache → Prop}

/-- What a request comes to when its program has ended. -/
def finish (e : Engine) (ending : Except Failure Flow × State) : Option Finished :=
  match ending with
  | (.ok flow, s) =>
    some ⟨Response.assemble flow s.output, { e with programs := s.programs }, s.journal⟩
  | (.error (.error err), s) =>
    some ⟨Response.failure err s.output e.config.debug, { e with programs := s.programs },
      s.journal⟩
  | (.error .outOfFuel, _) => none

theorem run_eq (e : Engine) (fuel : Nat) (r : Request) (request : Headers) (batch : Bool) :
    e.run fuel r request batch =
      e.finish (executeProgram (e.host request) fuel r.program
        (e.initialState (Context.ofParameters r.parameters) batch)) := rfl

/-- Only the programs that are kept tell of the state that a request ends in. -/
theorem finish_sameButPrograms {s t : State} (hst : SameButPrograms C s t)
    (programs : ProgramCache) (result : Except Failure Flow) :
    (e.finish (result, s)).map (fun f => (f.response, f.journal)) =
      (finish { e with programs := programs } (result, t)).map
        (fun f => (f.response, f.journal)) := by
  rcases result with (err | _) | flow
  · simp only [finish, Option.map_some, hst.output, hst.journal]
  · rfl
  · simp only [finish, Option.map_some, hst.output, hst.journal]

theorem finish_engine {result : Except Failure Flow} {s : State} {f : Finished}
    (hf : e.finish (result, s) = some f) : f.engine = { e with programs := s.programs } := by
  rcases result with (err | _) | flow
  · cases hf
    rfl
  · contradiction
  · cases hf
    rfl

/-- A run goes as it would with other programs of the same kind kept, and keeps the kind, if
no primitive tells two programs of the kind apart. -/
theorem run_twins {programs : ProgramCache} {request : Headers}
    (htwins : Twins (e.host request) (SameButPrograms C)) (he : C e.programs)
    (hprograms : C programs) (fuel : Nat) (r : Request) (batch : Bool) :
    (e.run fuel r request batch).map (fun f => (f.response, f.journal)) =
        (run { e with programs := programs } fuel r request batch).map
          (fun f => (f.response, f.journal)) ∧
      ∀ f, e.run fuel r request batch = some f →
        C f.engine.programs ∧ f.engine = { e with programs := f.engine.programs } := by
  have hhost : host { e with programs := programs } request = e.host request := rfl
  rw [run_eq, run_eq, hhost]
  obtain ⟨hresult, hend⟩ := htwins.executeProgram_alike fuel r.program
    (e.initialState (Context.ofParameters r.parameters) batch)
    (initialState { e with programs := programs } (Context.ofParameters r.parameters) batch)
    ⟨rfl, rfl, rfl, he, hprograms⟩
  generalize executeProgram (e.host request) fuel r.program
    (e.initialState (Context.ofParameters r.parameters) batch) = left at *
  generalize executeProgram (e.host request) fuel r.program
    (initialState { e with programs := programs } (Context.ofParameters r.parameters) batch)
    = right at *
  obtain ⟨result, s⟩ := left
  obtain ⟨_, t⟩ := right
  obtain rfl := hresult
  refine ⟨finish_sameButPrograms hend programs result, fun f hf => ?_⟩
  have hengine := finish_engine hf
  rw [hengine]
  exact ⟨hend.left, rfl⟩

theorem run_sameButPrograms (hC : ProgramCache.Transparent e.source e.registry C)
    {programs : ProgramCache} (he : C e.programs) (hprograms : C programs) (fuel : Nat)
    (r : Request) (request : Headers) (batch : Bool) :
    (e.run fuel r request batch).map (fun f => (f.response, f.journal)) =
        (run { e with programs := programs } fuel r request batch).map
          (fun f => (f.response, f.journal)) ∧
      ∀ f, e.run fuel r request batch = some f →
        C f.engine.programs ∧ f.engine = { e with programs := f.engine.programs } := by
  have htwins : Twins (e.host request) (SameButPrograms C) := hC.twins
  exact run_twins htwins he hprograms fuel r batch

end Engine

/-! ## Libraries -/

/-- What is kept of a library's programs is faithful, and no number in it is one that
the library has not given out yet. -/
structure Library.Sound (registry : Registry) (l : Library) (c : ProgramCache) : Prop where
  shelf : ∀ {id number nodes}, l.get? id = some (number, nodes) → number ≤ l.insertions
  stamps : ∀ {id p}, c.get? id = some p → ∃ number ≤ l.insertions, p.stamp = .written number
  faithful : c.Faithful l.source registry

namespace Library.Sound

variable {registry : Registry} {l : Library} {c : ProgramCache}

theorem empty (registry : Registry) : Sound registry {} [] := ⟨nofun, nofun, nofun⟩

/-- What was kept of an id that is inserted again has an older number than the new one. -/
theorem insert (h : Sound registry l c) (id : String) (nodes : List Node) :
    Sound registry (l.insert id nodes) c where
  shelf {key number nodes'} hget := by
    have hcount : (l.insert id nodes).insertions = l.insertions + 1 := rfl
    rw [get?_insert] at hget
    split at hget
    · cases hget
      omega
    · have := h.shelf hget
      omega
  stamps hget := by
    obtain ⟨number, hle, hstamp⟩ := h.stamps hget
    exact ⟨number, Nat.le_succ_of_le hle, hstamp⟩
  faithful key stamp p hstamp hcurrent := by
    obtain ⟨hget, hp⟩ := ProgramCache.current?_eq_some.mp hcurrent
    obtain ⟨number, hle, hnumber⟩ := h.stamps hget
    have hfaithful := h.faithful key stamp p
    unfold ProgramCache.readFresh at hfaithful ⊢
    unfold source at hstamp hfaithful ⊢
    dsimp only at hstamp hfaithful ⊢
    rw [get?_insert] at hstamp ⊢
    by_cases hkey : key = id
    · -- the number that was given out last is kept with no program
      rw [if_pos hkey] at hstamp
      cases hstamp
      rw [hnumber, Stamp.written.injEq] at hp
      omega
    · rw [if_neg hkey] at hstamp ⊢
      exact hfaithful hstamp hcurrent

theorem erase (h : Sound registry l c) (id : String) : Sound registry l (c.erase id) where
  shelf := h.shelf
  stamps hget := by
    rw [ProgramCache.get?_erase, Option.ite_none_left_eq_some] at hget
    exact h.stamps hget.2
  faithful := h.faithful.erase id

/-- The stamp of a program in a library is the number of its insertion. -/
theorem stamp_le (h : Sound registry l c) {id : String} {stamp : Stamp}
    (hstamp : l.source.stamp id = .ok stamp) :
    ∃ number ≤ l.insertions, stamp = .written number := by
  unfold source at hstamp
  dsimp only at hstamp
  split at hstamp
  · next number nodes hget =>
    cases hstamp
    exact ⟨number, h.shelf hget, rfl⟩
  · contradiction

theorem load (h : Sound registry l c) (id : String) :
    Sound registry l (c.load l.source registry id).2 := by
  obtain ⟨e, hload⟩ | ⟨stamp, p, -, -, hload⟩ | ⟨stamp, p, hstamp, hread, hload⟩ :=
    c.load_cases l.source registry id
  · rwa [hload]
  · rwa [hload]
  · rw [hload]
    refine ⟨h.shelf, fun {key p'} hget => ?_, h.faithful.insert hread⟩
    rw [ProgramCache.get?_insert] at hget
    split at hget
    · cases hget
      obtain ⟨nodes, -, -, rfl⟩ := ProgramCache.readFresh_eq_ok.mp hread
      exact h.stamp_le hstamp
    · exact h.stamps hget

theorem transparent (registry : Registry) (l : Library) :
    ProgramCache.Transparent l.source registry (Sound registry l) :=
  ⟨fun hc id => hc.faithful.load_eq id, fun hc id => hc.load id⟩

end Library.Sound

/-! ## Histories -/

/-- What may happen to an engine whose programs are held in memory. -/
inductive Operation where
  | insert (id : String) (nodes : List Node)
  | invalidate (id : String)
  | load (id : String)
  | run (fuel : Nat) (r : Request) (request : Headers) (batch : Bool)

/-- The nodes that an operation inserts under an id. -/
def Operation.inserted? (id : String) : Operation → Option (List Node)
  | .insert name nodes => if name = id then some nodes else none
  | _ => none

/-- The nodes that were last inserted under an id. -/
def lastInserted (ops : List Operation) (id : String) : Option (List Node) :=
  (ops.filterMap (Operation.inserted? id)).getLast?

namespace Engine

/-- The engine with a program put into its library. -/
def insertProgram (e : Engine) (id : String) (nodes : List Node) : Engine :=
  match e.origin with
  | .library l => { e with origin := .library (l.insert id nodes) }
  | .folder => e

/-- The engine after an operation. -/
def after (e : Engine) : Operation → Engine
  | .insert id nodes => e.insertProgram id nodes
  | .invalidate id => e.invalidate id
  | .load id => (e.load id).2
  | .run fuel r request batch =>
    match e.run fuel r request batch with
    | some f => f.engine
    | none => e

/-- The engine with an empty library and nothing kept. -/
def emptied (e : Engine) : Engine := { e with origin := .library {}, programs := [] }

/-- Where operations lead to from an empty library and nothing kept. -/
structure Reached (registry : Registry) (ops : List Operation) (l : Library) (e : Engine) :
    Prop where
  checks : e.registry = registry
  origin : e.origin = .library l
  sound : l.Sound registry e.programs
  found : ∀ id, (l.get? id).map Prod.snd = lastInserted ops id

theorem lastInserted_concat (ops : List Operation) (op : Operation) (id : String) :
    lastInserted (ops ++ [op]) id = (op.inserted? id).or (lastInserted ops id) := by
  rw [lastInserted, List.filterMap_append, List.getLast?_append]
  cases h : op.inserted? id <;> simp [h, lastInserted]

/-- An operation that inserts nothing. -/
theorem lastInserted_of_none {ops : List Operation} {op : Operation} {id : String}
    (hop : op.inserted? id = none) : lastInserted (ops ++ [op]) id = lastInserted ops id := by
  rw [lastInserted_concat, hop, Option.none_or]

namespace Reached

variable {registry : Registry} {ops : List Operation} {l : Library}

theorem start (e : Engine) : Reached e.registry [] {} e.emptied :=
  ⟨rfl, rfl, .empty _, fun _ => rfl⟩

theorem source_eq (h : Reached registry ops l e) : e.source = l.source := by
  rw [source, h.origin]

/-- An operation that changes only what is kept. -/
theorem keeping (h : Reached registry ops l e) (op : Operation)
    (hop : ∀ id, op.inserted? id = none) {programs : ProgramCache}
    (hsound : l.Sound registry programs) :
    Reached registry (ops ++ [op]) l { e with programs := programs } :=
  ⟨h.checks, h.origin, hsound, fun id => by rw [lastInserted_of_none (hop id), h.found id]⟩

theorem insert (h : Reached registry ops l e) (id : String) (nodes : List Node) :
    Reached registry (ops ++ [.insert id nodes]) (l.insert id nodes)
      (e.insertProgram id nodes) := by
  have hinsert : e.insertProgram id nodes = { e with origin := .library (l.insert id nodes) } := by
    rw [insertProgram, h.origin]
  rw [hinsert]
  refine ⟨h.checks, rfl, h.sound.insert id nodes, fun key => ?_⟩
  rw [lastInserted_concat, Operation.inserted?, Library.get?_insert, ← h.found key]
  by_cases hkey : key = id
  · subst hkey
    simp
  · rw [if_neg hkey, if_neg (Ne.symm hkey), Option.none_or]

/-- What one operation leads to. -/
theorem step (h : Reached registry ops l e) (op : Operation) :
    ∃ l', Reached registry (ops ++ [op]) l' (e.after op) := by
  cases op with
  | insert id nodes => exact ⟨_, h.insert id nodes⟩
  | invalidate id => exact ⟨l, h.keeping (.invalidate id) (fun _ => rfl) (h.sound.erase id)⟩
  | load id =>
    have hsound : l.Sound registry (e.programs.load e.source e.registry id).2 := by
      rw [h.source_eq, h.checks]
      exact h.sound.load id
    exact ⟨l, h.keeping (.load id) (fun _ => rfl) hsound⟩
  | run fuel r request batch =>
    have hC : ProgramCache.Transparent e.source e.registry (l.Sound registry) := by
      rw [h.source_eq, h.checks]
      exact Library.Sound.transparent registry l
    have hrun := (run_sameButPrograms hC h.sound h.sound fuel r request batch).2
    rw [after]
    cases hf : e.run fuel r request batch with
    | none => exact ⟨l, h.keeping (.run fuel r request batch) (fun _ => rfl) h.sound⟩
    | some f =>
      obtain ⟨hsound, hengine⟩ := hrun f hf
      dsimp only
      rw [hengine]
      exact ⟨l, h.keeping (.run fuel r request batch) (fun _ => rfl) hsound⟩

/-- What any operations lead to. -/
theorem steps (more : List Operation) {ops : List Operation} {l : Library} {e : Engine}
    (h : Reached registry ops l e) :
    ∃ l', Reached registry (ops ++ more) l' (more.foldl after e) := by
  induction more generalizing ops l e with
  | nil => exact ⟨l, by rwa [List.append_nil]⟩
  | cons op more ih =>
    obtain ⟨l', h'⟩ := h.step op
    have hmore := ih h'
    rwa [List.append_assoc, List.singleton_append] at hmore

end Reached

end Engine

/-- What a load has to give for the nodes that were inserted last, if any were: the id
and the nodes, as long as they pass the check. -/
def Registry.loaded (registry : Registry) (id : String) :
    Option (List Node) → Except Error (String × List Node)
  | none => .error (.missingProgram id)
  | some nodes => (registry.check nodes).map fun () => (id, nodes)

namespace Engine

/-- A load from what operations lead to gives what the last insertion calls for. -/
theorem Reached.load {registry : Registry} {ops : List Operation} {l : Library} {e : Engine}
    (h : Reached registry ops l e) (id : String) :
    (e.load id).1.map (fun p => (p.id, p.nodes)) = registry.loaded id (lastInserted ops id) := by
  have hload : (e.load id).1 = (ProgramCache.load [] l.source registry id).1 := by
    rw [← h.sound.faithful.load_eq id, ← h.source_eq, ← h.checks]
    rfl
  rw [hload, ← h.found id]
  cases hget : l.get? id with
  | none => simp [ProgramCache.load, Library.source, hget, Registry.loaded, Except.map]
  | some entry =>
    obtain ⟨number, nodes⟩ := entry
    have hempty : ProgramCache.current? [] id (.written number) = none := rfl
    simp only [ProgramCache.load, ProgramCache.readFresh, Library.source, hget, hempty,
      Registry.loaded, Option.map_some]
    cases registry.check nodes <;> rfl

/-- **The programs that are kept make no difference.**  Whatever is inserted, forgotten,
loaded and run, from an empty library and with nothing kept: a load gives what the last
insertion calls for, and what it gives with nothing kept; one that fails leaves the
engine as it was; and a run has the response, and does what, it would with nothing
kept. -/
theorem programs_kept_transparently (start : Engine) (ops : List Operation) :
    let e := ops.foldl after start.emptied
    (∀ id, (e.load id).1.map (fun p => (p.id, p.nodes)) =
        start.registry.loaded id (lastInserted ops id)) ∧
      (∀ id, (e.load id).1 = (Engine.load { e with programs := [] } id).1) ∧
      (∀ id err, (e.load id).1 = .error err → (e.load id).2 = e) ∧
      (∀ fuel r request batch,
        (e.run fuel r request batch).map (fun f => (f.response, f.journal)) =
          (Engine.run { e with programs := [] } fuel r request batch).map
            (fun f => (f.response, f.journal))) := by
  obtain ⟨l, h⟩ := (Reached.start start).steps ops
  rw [List.nil_append] at h
  intro e
  change Reached start.registry ops l e at h
  have hsource : e.source = l.source := h.source_eq
  have hC : ProgramCache.Transparent e.source e.registry (l.Sound start.registry) := by
    rw [hsource, h.checks]
    exact Library.Sound.transparent start.registry l
  have hempty : l.Sound start.registry [] := ⟨h.sound.shelf, nofun, nofun⟩
  refine ⟨h.load, fun id => hC.load h.sound id, fun id err herr => ?_, ?_⟩
  · have hkept := ProgramCache.load_error herr
    change { e with programs := (e.programs.load e.source e.registry id).2 } = e
    rw [hkept]
  · intro fuel r request batch
    exact (run_sameButPrograms hC h.sound hempty fuel r request batch).1

end Engine

end ActionTree
