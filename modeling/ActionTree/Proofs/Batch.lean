import ActionTree.Proofs.Invariant
import ActionTree.Proofs.Record
import ActionTree.Proofs.ResponseCache

/-!
# ActionTree.Proofs.Batch

A batch is its requests, each run alone.

1. a request of a batch neither looks for a stored response nor asks to be stored, so it
   goes the same way whatever is stored (`executeProgram_storing`, `Engine.run_onDisk`);
2. what the requests before it have loaded makes no difference to it either, so every
   result is that of the request run alone (`BatchState.After`);
3. the results have one entry for every key, in the order in which the keys come up, and
   of two requests under one key the later one counts (`Engine.batch_runs_each_alone`).
-/

namespace ActionTree

open Run

/-- An envelope is written, field by field, as the record that it is. -/
theorem Envelope.compact_toValue (e : Envelope) : Json.compact e.toValue = e.serialize .json := by
  obtain ⟨status, message, payload, headers⟩ := e
  cases message with
  | none => rfl
  | some m => rfl

/-- Of entries with distinct keys each is found under its own. -/
theorem lookup_of_mem {β : Type} {entries : List (String × β)}
    (hdistinct : (entries.map Prod.fst).Nodup) {key : String} {b : β}
    (hmem : (key, b) ∈ entries) : entries.lookup key = some b := by
  obtain ⟨before, after, rfl⟩ := List.append_of_mem hmem
  rw [List.map_append, List.nodup_append] at hdistinct
  refine List.lookup_eq_some_iff.mpr ⟨before, after, rfl, fun entry hentry => ?_⟩
  have hbefore : entry.1 ∈ before.map Prod.fst := List.mem_map_of_mem hentry
  have hne : entry.1 ≠ key := hdistinct.2.2 entry.1 hbefore key List.mem_cons_self
  simpa using hne.symm

/-! ## Without stored responses -/

namespace Run

/-- The states of a request of a batch. -/
def InBatch (_ : Unit) (s : State) : Prop := s.output.batch = true

theorem inBatch_invariant (h : Host) : Invariant h (fun _ => True) InBatch fun _ _ => () where
  mild _ := trivial
  leaf hl hs := hl.batch.trans hs
  place hs _ _ := hs
  based hs _ := hs
  load hs _ := hs
  unread _ _ := trivial
  tooDeep _ _ := trivial
  began hs _ := hs
  ended hs _ _ := hs
  opened hs _ _ _ _ := hs
  closed _ ht _ _ := ht

/-- In a batch a program runs the same way whatever is stored. -/
theorem executeProgram_storing (h : Host) (stored : String → Nat → Option StoredResponse)
    (fuel : Nat) (id : String) {s : State} (hs : s.output.batch = true) :
    executeProgram (h.storing stored) fuel id s = executeProgram h fuel id s := by
  have hconsult : ConsultSettles h (⊤ : Filter (String → Nat → Option StoredResponse))
      (fun _ => True) InBatch fun stored => stored := by
    intro i d t ht hsingle
    rw [InBatch, hsingle] at ht
    contradiction
  obtain ⟨result, t, hend, -, -⟩ :=
    executeProgram_settles (inBatch_invariant h) hconsult fuel () id s hs
  have hall := Filter.eventually_top.mp hend
  exact (hall stored).trans (hall h.stored).symm

end Run

namespace Engine

variable {e : Engine} {fuel : Nat} {request : Headers}

/-- The engine on another disk. -/
def onDisk (e : Engine) (d : Disk) : Engine := { e with disk := d }

/-- In a batch a request runs the same way on every disk that has the same programs. -/
theorem run_onDisk {d : Disk} (hd : (e.onDisk d).source = e.source) (r : Request) :
    (e.onDisk d).run fuel r request true =
      (e.run fuel r request true).map fun f => { f with engine := f.engine.onDisk d } := by
  have hhost : (e.onDisk d).host request = (e.host request).storing (e.onDisk d).probe := by
    unfold host
    rw [hd]
    rfl
  have hinitial : (e.onDisk d).initialState = e.initialState := rfl
  rw [run_eq, run_eq, hhost, hinitial, executeProgram_storing (e.host request) _ fuel _ rfl]
  rcases executeProgram (e.host request) fuel r.program
    (e.initialState (Context.ofParameters r.parameters) true) with ⟨(err | _) | flow, t⟩
  · rfl
  · rfl
  · rfl

/-! ## One request after another -/

/-- The envelope of a request that is run alone, without the response cache. -/
def alone (e : Engine) (fuel : Nat) (request : Headers) (r : Request) : Option Envelope :=
  (e.run fuel r request true).map fun f => f.response.outcome.toEnvelope

/-- What a batch has come to with some of its requests done: their results are those of the
requests run alone, and only programs have been loaded. -/
structure BatchState.After (e : Engine) (fuel : Nat) (request : Headers)
    (done : List (String × Request)) (b : BatchState) : Prop where
  keys : Record.keys b.results = (done.map Prod.fst).eraseDups
  entry : ∀ key, Record.get? b.results key =
    (done.reverse.lookup key).bind fun r => (e.alone fuel request r).map Envelope.toValue
  engine : b.engine = { e with programs := b.engine.programs }
  programs : ProgramCache.LoadsLike e.source e.registry e.programs b.engine.programs

namespace BatchState.After

variable {done : List (String × Request)} {b : BatchState}

theorem nothing (e : Engine) (fuel : Nat) (request : Headers) (journal : Journal) :
    BatchState.After e fuel request [] ⟨[], e, journal⟩ where
  keys := rfl
  entry _ := rfl
  engine := rfl
  programs _ := rfl

/-- What was done before makes no difference to a request. -/
theorem run (hb : b.After e fuel request done) (r : Request) :
    (b.engine.run fuel r request true).map (fun f => f.response.outcome.toEnvelope) =
        e.alone fuel request r ∧
      ∀ f, b.engine.run fuel r request true = some f →
        f.engine = { e with programs := f.engine.programs } ∧
          ProgramCache.LoadsLike e.source e.registry e.programs f.engine.programs := by
  obtain ⟨results, engine, journal⟩ := b
  have hengine := hb.engine
  have hprograms := hb.programs
  dsimp only at hengine hprograms ⊢
  generalize engine.programs = programs at hengine hprograms
  subst hengine
  have htwins := ProgramCache.twins_loadsLike (e.host request) e.programs
  obtain ⟨hsame, hkept⟩ := Engine.run_twins (e := { e with programs := programs }) htwins hprograms
    (fun _ => rfl) fuel r true
  constructor
  · have henvelope := congrArg (Option.map fun p => p.1.outcome.toEnvelope) hsame
    rw [Option.map_map, Option.map_map] at henvelope
    exact henvelope
  · intro f hf
    obtain ⟨hlike, hf⟩ := hkept f hf
    exact ⟨hf, hlike⟩

/-- A request that is done adds its result, in place of an earlier one under its key. -/
theorem step (hb : b.After e fuel request done) (key : String) {r : Request} {f : Finished}
    (hf : b.engine.run fuel r request true = some f) :
    BatchState.After e fuel request (done ++ [(key, r)])
      ⟨Record.insert b.results key f.response.outcome.toEnvelope.toValue, f.engine,
        f.journal ++ b.journal⟩ := by
  obtain ⟨halone, hkept⟩ := hb.run r
  rw [hf, Option.map_some] at halone
  obtain ⟨hengine, hprograms⟩ := hkept f hf
  refine ⟨?_, fun k => ?_, hengine, hprograms⟩
  · rw [Record.keys_insert, hb.keys, List.map_append, List.eraseDups_append]
    by_cases hkey : key ∈ done.map Prod.fst
    · simp [hkey, List.removeAll]
    · simp [hkey, List.removeAll, List.eraseDups_cons]
  · rw [Record.get?_insert, List.reverse_append, List.reverse_singleton, List.singleton_append,
      lookup_cons_eq, hb.entry k]
    by_cases hkey : key = k
    · rw [if_pos hkey, if_pos hkey.symm, Option.bind_some, ← halone, Option.map_some]
    · rw [if_neg hkey, if_neg (Ne.symm hkey)]

/-- A batch comes to an end if its requests do, and has done them all then. -/
theorem runEach (hb : b.After e fuel request done) (rs : List (String × Request)) :
    ((Engine.runEach fuel request b rs).isSome ↔
        ∀ entry ∈ rs, (e.alone fuel request entry.2).isSome) ∧
      ∀ b', Engine.runEach fuel request b rs = some b' → b'.After e fuel request (done ++ rs) := by
  induction rs generalizing done b with
  | nil =>
    refine ⟨by simp [Engine.runEach], fun b' hb' => ?_⟩
    obtain rfl : b = b' := Option.some.inj hb'
    rwa [List.append_nil]
  | cons entry rs ih =>
    obtain ⟨key, r⟩ := entry
    obtain ⟨halone, -⟩ := hb.run r
    rw [Engine.runEach]
    cases hf : b.engine.run fuel r request true with
    | none =>
      rw [hf, Option.map_none] at halone
      exact ⟨by simp [← halone], fun b' hb' => by contradiction⟩
    | some f =>
      rw [hf, Option.map_some] at halone
      obtain ⟨hends, hafter⟩ := ih (hb.step key hf)
      rw [List.append_assoc] at hafter
      exact ⟨by simpa [← halone] using hends, hafter⟩

end BatchState.After

/-! ## Batches -/

/-- A batch runs the same way on every disk that has the same programs. -/
theorem runEach_onDisk {d : Disk} {b : BatchState}
    (hd : (b.engine.onDisk d).source = b.engine.source) (rs : List (String × Request)) :
    runEach fuel request { b with engine := b.engine.onDisk d } rs =
      (runEach fuel request b rs).map fun b => { b with engine := b.engine.onDisk d } := by
  induction rs generalizing b with
  | nil => rfl
  | cons entry rs ih =>
    obtain ⟨key, r⟩ := entry
    rw [runEach, runEach, run_onDisk hd r]
    cases hf : b.engine.run fuel r request true with
    | none => rfl
    | some f =>
      have hengine : f.engine = { b.engine with programs := f.engine.programs } := run_engine hf
      have hsource : (f.engine.onDisk d).source = f.engine.source := by
        rw [hengine]
        exact hd
      exact ih (b := ⟨_, f.engine, _⟩) hsource

/-- **A batch is its requests, each run alone.**

1. It comes to an end if every one of its requests does when it is run alone, without the
   response cache.
2. Its results have one entry for every key, in the order in which the keys first occur: the
   value of the envelope of the last request under the key, run alone.
3. So with distinct keys the entry of a request is the same whatever else is in the batch.
4. An entry is written as its envelope is.
5. Nothing is stored, and on a disk with other stored responses but the same programs the
   batch runs the same way. -/
theorem batch_runs_each_alone (e : Engine) (fuel : Nat) (rs : List (String × Request))
    (request : Headers) :
    ((e.runBatch fuel rs request).isSome ↔
        ∀ entry ∈ rs, (e.alone fuel request entry.2).isSome) ∧
      (∀ f, e.runBatch fuel rs request = some f → ∃ results : Record,
        f.response = ⟨.envelope (Envelope.ok (.record results)),
          { format := e.config.format, batch := true }⟩ ∧
        Record.keys results = (rs.map Prod.fst).eraseDups ∧
        (∀ key, Record.get? results key = (rs.reverse.lookup key).bind fun r =>
          (e.alone fuel request r).map Envelope.toValue) ∧
        ((rs.map Prod.fst).Nodup → ∀ entry ∈ rs, Record.get? results entry.1 =
          (e.alone fuel request entry.2).map Envelope.toValue) ∧
        (f.send request).engine = { e with programs := f.engine.programs }) ∧
      (∀ envelope : Envelope, Json.compact envelope.toValue = envelope.serialize .json) ∧
      ∀ disk, (e.onDisk disk).source = e.source →
        (e.onDisk disk).runBatch fuel rs request =
          (e.runBatch fuel rs request).map fun f => { f with engine := f.engine.onDisk disk } := by
  have hbegin := BatchState.After.nothing e fuel request []
  obtain ⟨hends, hafter⟩ := hbegin.runEach rs
  refine ⟨?_, fun f hf => ?_, Envelope.compact_toValue, fun disk hdisk => ?_⟩
  · rw [← hends, runBatch]
    cases Engine.runEach fuel request ⟨[], e, []⟩ rs <;> rfl
  · rw [runBatch] at hf
    cases hb : Engine.runEach fuel request ⟨[], e, []⟩ rs with
    | none => simp [hb] at hf
    | some b =>
      simp only [hb, Option.some.injEq] at hf
      subst hf
      have hall := hafter b hb
      refine ⟨b.results, rfl, hall.keys, hall.entry, fun hrs entry hentry => ?_, hall.engine⟩
      have hreverse : (rs.reverse.map Prod.fst).Nodup := by
        rw [List.map_reverse]
        exact List.nodup_reverse.mpr hrs
      rw [hall.entry, List.nil_append, lookup_of_mem hreverse (List.mem_reverse.mpr hentry),
        Option.bind_some]
  · have hsame : Engine.runEach fuel request ⟨[], e.onDisk disk, []⟩ rs =
        (Engine.runEach fuel request ⟨[], e, []⟩ rs).map
          fun b => { b with engine := b.engine.onDisk disk } :=
      runEach_onDisk (b := ⟨[], e, []⟩) hdisk rs
    rw [runBatch, runBatch, hsame]
    cases Engine.runEach fuel request ⟨[], e, []⟩ rs <;> rfl

/-- A page in two parts, each of which asks to be stored, the second by a node that does not
stand first. -/
def pages : Library :=
  let library := Library.insert {} "page"
    [{ name := "cache", attributes := [("id", "page"), ("expires", "60")] },
     { name := "header", attributes := [("line", "X-Page: 1")] },
     { name := "evaluate", attributes := [("src", "part")] },
     { name := "reply", attributes := [("value", "page")] }]
  let library := library.insert "part"
    [{ name := "write", attributes := [("value", "part")] },
     { name := "cache", attributes := [("id", "part"), ("expires", "60")] }]
  library.insert "none"
    [{ name := "fail", attributes := [("status", "404"), ("message", "none")] }]

/-- An engine with these programs, and with nothing stored. -/
def pagesEngine : Engine := { origin := .library pages }

/-- The disk of an engine that has stored a page. -/
def pagesDisk : Disk := (pagesEngine.store "page" ⟨[], Text.encode "old", false⟩).disk

/-- A batch that asks for a page, for what is not there, and for a page again. -/
def pagesBatch : List (String × Request) :=
  [("a", ⟨"none", []⟩), ("b", ⟨"none", []⟩), ("a", ⟨"page", []⟩)]

theorem alone_page :
    pagesEngine.alone 9 [] ⟨"page", []⟩ = some (Envelope.ok (.text "page")) := by
  cbv

theorem alone_none :
    ∃ envelope, pagesEngine.alone 9 [] ⟨"none", []⟩ = some envelope ∧ envelope.status = 404 := by
  have hstatus : (pagesEngine.alone 9 [] ⟨"none", []⟩).map Envelope.status = some 404 := by
    decide +kernel
  exact Option.map_eq_some_iff.mp hstatus

theorem batch_runs_each_alone_pages :
    ((pagesEngine.onDisk pagesDisk).probe "page" 60).isSome = true ∧
      ∃ f results, pagesEngine.runBatch 9 pagesBatch [] = some f ∧
        f.response = ⟨.envelope (Envelope.ok (.record results)), { batch := true }⟩ ∧
        Record.keys results = ["a", "b"] ∧
        Record.get? results "a" = some (Envelope.ok (.text "page")).toValue ∧
        (∃ envelope : Envelope, Record.get? results "b" = some envelope.toValue ∧
          envelope.status = 404) ∧
        (f.send []).engine.disk = pagesEngine.disk ∧
        (pagesEngine.onDisk pagesDisk).runBatch 9 pagesBatch [] =
          some { f with engine := f.engine.onDisk pagesDisk } := by
  obtain ⟨hends, hresults, -, hdisk⟩ := batch_runs_each_alone pagesEngine 9 pagesBatch []
  obtain ⟨envelope, hnone, hstatus⟩ := alone_none
  have hall : ∀ entry ∈ pagesBatch, (pagesEngine.alone 9 [] entry.2).isSome := by
    simp [pagesBatch, alone_page, hnone]
  obtain ⟨f, hf⟩ := Option.isSome_iff_exists.mp (hends.mpr hall)
  obtain ⟨results, hresponse, hkeys, hentry, -, hsent⟩ := hresults f hf
  have hother := hdisk pagesDisk rfl
  rw [hf, Option.map_some] at hother
  refine ⟨by decide +kernel, f, results, hf, hresponse, ?_, ?_, ?_, ?_, hother⟩
  · rw [hkeys]
    decide
  · rw [hentry]
    simp [pagesBatch, alone_page]
  · refine ⟨envelope, ?_, hstatus⟩
    rw [hentry]
    simp [pagesBatch, hnone, List.lookup]
  · rw [hsent]

end Engine

end ActionTree
