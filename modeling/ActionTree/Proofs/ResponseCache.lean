import ActionTree.Proofs.CacheEntry
import ActionTree.Proofs.ProgramCache
import ActionTree.Proofs.Replay

/-!
# ActionTree.Proofs.ResponseCache

What an engine replays over a whole session.

1. an *exchange* is a request or a batch that an engine has answered; a *session* is
   what one engine has answered, the newest first, when nobody else writes into its
   cache (`Session`);
2. under every id the cache has nothing, or the response of the exchange that was stored
   last under it (`Session.entry`);
3. so a replay sends what that exchange would have sent, and only successes are stored
   (`Session.replays_are_faithful`).
-/

namespace ActionTree

open Run

/-! ## Exchanges -/

/-- What a client asks for. -/
inductive Ask where
  | single (r : Request)
  | batch (rs : List (String × Request))

namespace Engine

variable {e : Engine} {fuel : Nat} {request : Headers}

/-- What an engine has to say to a client. -/
def work (e : Engine) (fuel : Nat) (a : Ask) (request : Headers) : Option Finished :=
  match a with
  | .single r => e.run fuel r request false
  | .batch rs => e.runBatch fuel rs request

/-- What an engine sends to a client. -/
def answer (e : Engine) (fuel : Nat) (a : Ask) (request : Headers) : Option Sent :=
  match a with
  | .single r => e.handle fuel r request
  | .batch rs => e.handleBatch fuel rs request

theorem answer_eq (e : Engine) (fuel : Nat) (a : Ask) (request : Headers) :
    e.answer fuel a request = (e.work fuel a request).map fun f => f.send request := by
  cases a <;> rfl

end Engine

/-- How a request ends, as far as stored responses go. -/
inductive Finished.Ending (e : Engine) (batch : Bool) (f : Finished) : Prop where
  | nothing (journal : ∀ id, .replayed id ∉ f.journal)
      (outcome : ∀ r, f.response.outcome ≠ .stored r)
  | replay (id : String) (seconds : Nat) (r : StoredResponse) (later earlier : Journal)
      (single : batch = false) (stored : e.probe id seconds = some r)
      (journal : f.journal = later ++ .replayed id :: earlier)
      (first : ∀ id, .replayed id ∉ earlier) (unwound : Unwinds (.ok .stop) later)
      (outcome : f.response.outcome = .stored r)

namespace Response

theorem assemble_outcome {flow : Flow} {s : Settings} (hs : s.replay = none) (r : StoredResponse) :
    (assemble flow s).outcome ≠ .stored r := by
  have hquiet : (quiet s).outcome = .silent := by rw [quiet, hs]
  unfold assemble
  split
  case h_3 | h_4 =>
    rw [hquiet]
    nofun
  all_goals nofun

end Response

namespace Engine

variable {e : Engine} {fuel : Nat} {request : Headers}

theorem unreplayed_initialState (e : Engine) (c : Context) (batch : Bool) :
    Unreplayed (e.initialState c batch) := ⟨by simp [initialState], rfl⟩

theorem run_ending {r : Request} {batch : Bool} {f : Finished}
    (hf : e.run fuel r request batch = some f) : f.Ending e batch := by
  rw [run_eq] at hf
  have hending := executeProgram_ending (e.host request) fuel r.program
    (e.unreplayed_initialState (Context.ofParameters r.parameters) batch)
  rcases hrun : executeProgram (e.host request) fuel r.program
    (e.initialState (Context.ofParameters r.parameters) batch) with ⟨result, t⟩
  rw [hrun] at hf hending
  cases hending with
  | nothing hquiet =>
    rcases result with (err | _) | flow
    · cases hf
      exact .nothing hquiet.journal nofun
    · contradiction
    · cases hf
      exact .nothing hquiet.journal (Response.assemble_outcome hquiet.replay)
  | replay id seconds r later earlier single stored journal first unwound shown hresult =>
    dsimp only at hresult shown
    subst hresult
    cases hf
    refine .replay id seconds r later earlier single stored journal first unwound ?_
    simp only [Response.assemble, Response.quiet, shown]

theorem run_engine {r : Request} {batch : Bool} {f : Finished}
    (hf : e.run fuel r request batch = some f) :
    f.engine = { e with programs := f.engine.programs } := by
  have h := finish_engine (run_eq e fuel r request batch ▸ hf)
  rw [h]

/-- A batch replays nothing, and changes nothing but the programs that are kept. -/
theorem runEach_ending (rs : List (String × Request)) {b b' : BatchState}
    (hb : runEach fuel request b rs = some b') (hquiet : ∀ id, .replayed id ∉ b.journal) :
    (∀ id, .replayed id ∉ b'.journal) ∧
      b'.engine = { b.engine with programs := b'.engine.programs } := by
  induction rs generalizing b with
  | nil =>
    cases hb
    exact ⟨hquiet, rfl⟩
  | cons entry rs ih =>
    obtain ⟨key, r⟩ := entry
    rw [runEach] at hb
    cases hf : b.engine.run fuel r request true with
    | none => simp [hf] at hb
    | some f =>
      simp only [hf] at hb
      have hjournal : ∀ id, .replayed id ∉ f.journal ++ b.journal := by
        intro id hmem
        rcases List.mem_append.mp hmem with hmem | hmem
        · cases run_ending hf with
          | nothing hquiet => exact hquiet id hmem
          | replay _ _ _ _ _ single => contradiction
        · exact hquiet id hmem
      obtain ⟨hend, hengine⟩ := ih hb hjournal
      refine ⟨hend, ?_⟩
      rw [hengine, run_engine hf]

theorem runBatch_ending {rs : List (String × Request)} {f : Finished}
    (hf : e.runBatch fuel rs request = some f) :
    f.Ending e true ∧ f.response.storeUnder? = none ∧
      f.engine = { e with programs := f.engine.programs } := by
  rw [runBatch] at hf
  cases hb : runEach fuel request ⟨[], e, []⟩ rs with
  | none => simp [hb] at hf
  | some b =>
    simp only [hb, Option.some.injEq] at hf
    subst hf
    obtain ⟨hquiet, hengine⟩ := runEach_ending rs hb (by simp)
    exact ⟨.nothing hquiet nofun, rfl, hengine⟩

end Engine

/-- What an engine has answered, and what it was when it did. -/
structure Exchange where
  engine : Engine
  fuel : Nat
  ask : Ask
  headers : Headers
  finished : Finished
  done : engine.work fuel ask headers = some finished

namespace Exchange

/-- The response, before content coding. -/
def response (x : Exchange) : Response := x.finished.response

/-- What happened. -/
def journal (x : Exchange) : Journal := x.finished.journal

/-- What the client was sent, and the engine afterwards. -/
def sent (x : Exchange) : Sent := x.finished.send x.headers

/-- The id that the response was stored under, if it was. -/
def storedUnder? (x : Exchange) : Option String := x.response.storeUnder?

/-- The exchange of an engine that has something to say. -/
def ofWork (engine : Engine) (fuel : Nat) (ask : Ask) (headers : Headers)
    (h : (engine.work fuel ask headers).isSome = true) : Exchange where
  engine := engine
  fuel := fuel
  ask := ask
  headers := headers
  finished := (engine.work fuel ask headers).get h
  done := (Option.some_get h).symm

/-- What was sent is what the engine answers. -/
theorem answer_eq_sent (x : Exchange) :
    x.engine.answer x.fuel x.ask x.headers = some x.sent := by
  rw [Engine.answer_eq, x.done]
  rfl

/-- Whether an exchange is one of a batch. -/
def isBatch (x : Exchange) : Bool :=
  match x.ask with
  | .single _ => false
  | .batch _ => true

theorem ending (x : Exchange) : x.finished.Ending x.engine x.isBatch := by
  obtain ⟨engine, fuel, ask, headers, finished, done⟩ := x
  cases ask with
  | single r => exact Engine.run_ending done
  | batch rs => exact (Engine.runBatch_ending done).1

theorem engine_eq (x : Exchange) :
    x.finished.engine = { x.engine with programs := x.finished.engine.programs } := by
  obtain ⟨engine, fuel, ask, headers, finished, done⟩ := x
  cases ask with
  | single r => exact Engine.run_engine done
  | batch rs => exact (Engine.runBatch_ending done).2.2

/-- An exchange changes nothing on the disk, or stores the response under its id. -/
theorem sent_engine (x : Exchange) :
    x.sent.engine = match x.storedUnder? with
      | some id => x.finished.engine.store id x.response.toStored
      | none => x.finished.engine := rfl

end Exchange

/-! ## Sessions -/

namespace Engine

/-- Where an engine has its stored responses. -/
def cacheFolder (e : Engine) : String := Storage.cacheFolder e.config.root

/-- The entries of the stored responses. -/
def cacheEntries (e : Engine) : Folder := ResponseCache.entries e.disk e.cacheFolder

/-- The bytes of the entry of an id. -/
def entry? (e : Engine) (id : String) : Option (List UInt8) :=
  match Folder.get? e.cacheEntries (ResponseCache.entryName id) with
  | some (.file bytes _) => some bytes
  | _ => none

/-- A response that is found is the one in the entry. -/
theorem entry?_of_probe {e : Engine} {id : String} {seconds : Nat} {r : StoredResponse}
    (h : e.probe id seconds = some r) :
    ∃ bytes, e.entry? id = some bytes ∧ StoredResponse.read? bytes = some r := by
  unfold probe ResponseCache.probe at h
  unfold entry?
  split at h
  · next bytes stamp hget =>
    split at h
    · contradiction
    · refine ⟨bytes, ?_, h⟩
      rw [cacheEntries, cacheFolder, hget]
  · contradiction

end Engine

/-- The exchange whose response was stored last under an id; the newest exchange comes
first. -/
def lastStored (xs : List Exchange) (id : String) : Option Exchange :=
  xs.find? fun x => x.storedUnder? == some id

/-- What one engine has answered, the newest first, and the engine afterwards.  Its cache
is empty at first, what it writes there is written, and nobody else writes there: between
two exchanges an engine may be set up anew, programs may change, time may pass, and
entries may get lost. -/
inductive Session : List Exchange → Engine → Prop
  | opened {e : Engine} (empty : ∀ id, e.entry? id = none) : Session [] e
  | answered {xs : List Exchange} (x : Exchange) (before : Session xs x.engine)
      (writable : x.storedUnder? ≠ none →
        ResponseCache.Writable x.engine.disk x.engine.cacheFolder) :
      Session (x :: xs) x.sent.engine
  | passed {xs : List Exchange} {e e' : Engine} (before : Session xs e)
      (unwritten : ∀ id bytes, e'.entry? id = some bytes → e.entry? id = some bytes) :
      Session xs e'

namespace Exchange

theorem lastStored_cons (x : Exchange) (xs : List Exchange) (id : String) :
    lastStored (x :: xs) id = if x.storedUnder? = some id then some x else lastStored xs id := by
  rw [lastStored, List.find?_cons]
  by_cases h : x.storedUnder? = some id
  · simp [h]
  · simp [beq_eq_false_iff_ne.mpr h, h, lastStored]

/-- The entries after an exchange. -/
theorem entry?_sent (x : Exchange)
    (writable : x.storedUnder? ≠ none →
      ResponseCache.Writable x.engine.disk x.engine.cacheFolder) (id : String) :
    x.sent.engine.entry? id =
      if x.storedUnder? = some id then some x.response.toStored.write else x.engine.entry? id := by
  have hsent := x.sent_engine
  have hengine := x.engine_eq
  cases hstored : x.storedUnder? with
  | none =>
    rw [hstored] at hsent
    rw [hsent, if_neg (by simp), hengine]
    rfl
  | some key =>
    rw [hstored] at hsent
    obtain ⟨tick, hentries⟩ := ResponseCache.entries_store
      (writable (by rw [hstored]; exact Option.some_ne_none key)) key x.response.toStored
    have hafter : x.sent.engine.cacheEntries = Folder.set x.engine.cacheEntries
        (ResponseCache.entryName key) (.file x.response.toStored.write (.written tick)) := by
      rw [hsent, hengine]
      exact hentries
    rw [Engine.entry?, hafter, Folder.get?_set]
    by_cases hid : id = key
    · subst hid
      simp
    · have hname : ResponseCache.entryName id ≠ ResponseCache.entryName key :=
        fun h => hid (ResponseCache.entryName_injective h)
      rw [if_neg hname, if_neg (by simpa using Ne.symm hid)]
      rfl

end Exchange

namespace Session

variable {xs : List Exchange} {e : Engine}

/-- Under an id there is nothing, or the response that was stored last under it. -/
theorem entry (hs : Session xs e) {id : String} {bytes : List UInt8}
    (hentry : e.entry? id = some bytes) :
    ∃ y, lastStored xs id = some y ∧ bytes = y.response.toStored.write := by
  induction hs generalizing bytes with
  | opened empty => simp [empty] at hentry
  | @answered xs x before writable ih =>
    rw [x.entry?_sent writable] at hentry
    rw [Exchange.lastStored_cons]
    split at hentry
    · next hstored =>
      rw [if_pos hstored]
      exact ⟨x, rfl, (Option.some.inj hentry).symm⟩
    · next hstored =>
      rw [if_neg hstored]
      exact ih hentry
  | passed before unwritten ih => exact ih (unwritten _ _ hentry)

/-- The session that an exchange of a session came after. -/
theorem before {newer older : List Exchange} {x : Exchange}
    (hs : Session (newer ++ x :: older) e) : Session older x.engine := by
  generalize hxs : newer ++ x :: older = xs at hs
  induction hs generalizing newer with
  | opened => simp at hxs
  | answered y before writable ih =>
    cases newer with
    | nil =>
      obtain ⟨rfl, rfl⟩ := List.cons.inj hxs
      exact before
    | cons z newer => exact ih (List.cons.inj hxs).2
  | passed before unwritten ih => exact ih hxs

end Session

/-! ## Replays and successes -/

/-- A request, not a batch, that did not fail, stop or come to null, that replayed nothing,
and that came to a text or to an envelope of status 200. -/
structure Exchange.Succeeds (x : Exchange) : Prop where
  run : ∃ r flow, x.ask = .single r ∧
    (executeProgram (x.engine.host x.headers) x.fuel r.program
      (x.engine.initialState (Context.ofParameters r.parameters) false)).1 = .ok flow ∧
    flow ≠ .stop ∧ flow ≠ .reply (.value .null)
  unreplayed : ∀ id, .replayed id ∉ x.journal
  outcome : (∃ s, x.response.outcome = .text s) ∨
    ∃ e, x.response.outcome = .envelope e ∧ e.status = 200

namespace Response

theorem storable_of_storeUnder? {r : Response} {id : String} (h : r.storeUnder? = some id) :
    r.outcome.storable = true := by
  unfold storeUnder? at h
  split at h
  · rw [Option.ite_none_right_eq_some, Bool.and_eq_true] at h
    exact h.1.1
  · contradiction

theorem storable_cases {o : Outcome} (h : o.storable = true) :
    (∃ s, o = .text s) ∨ ∃ e, o = .envelope e ∧ e.status = 200 := by
  cases o with
  | envelope e => exact .inr ⟨e, rfl, by simpa [Outcome.storable] using h⟩
  | text s => exact .inl ⟨s, rfl⟩
  | silent => contradiction
  | stored r => contradiction

/-- A failure is not stored, whatever its status. -/
theorem storeUnder?_failure (err : Error) (s : Settings) (detailed : Bool) :
    (failure err s detailed).storeUnder? = none := rfl

/-- What comes without a reply is not stored. -/
theorem storable_quiet (s : Settings) : (quiet s).outcome.storable = false := by
  unfold quiet
  cases s.replay <;> rfl

/-- Neither a stop nor a reply of null is stored. -/
theorem flow_of_storable {flow : Flow} {s : Settings}
    (h : (assemble flow s).outcome.storable = true) :
    flow ≠ .stop ∧ flow ≠ .reply (.value .null) := by
  have hloud : assemble flow s ≠ quiet s := by
    intro hquiet
    rw [hquiet, storable_quiet] at h
    contradiction
  constructor
  · rintro rfl
    exact hloud rfl
  · rintro rfl
    exact hloud rfl

end Response

namespace Exchange

/-- Only a success is stored. -/
theorem succeeds_of_stored {x : Exchange} {id : String} (h : x.storedUnder? = some id) :
    x.Succeeds := by
  have hstorable := Response.storable_of_storeUnder? h
  refine ⟨?_, ?_, Response.storable_cases hstorable⟩
  · obtain ⟨engine, fuel, ask, headers, finished, done⟩ := x
    cases ask with
    | batch rs => exact absurd ((Engine.runBatch_ending done).2.1.symm.trans h) nofun
    | single r =>
      have hrun := (Engine.run_eq engine fuel r headers false).symm.trans done
      rcases hend : executeProgram (engine.host headers) fuel r.program
        (engine.initialState (Context.ofParameters r.parameters) false) with ⟨result, t⟩
      rw [hend] at hrun
      rcases result with (err | _) | flow
      · cases hrun
        exact absurd ((Response.storeUnder?_failure _ _ _).symm.trans h) nofun
      · contradiction
      · cases hrun
        exact ⟨r, flow, rfl, congrArg Prod.fst hend, Response.flow_of_storable hstorable⟩
  · intro id' hmem
    cases x.ending with
    | nothing hquiet => exact hquiet id' hmem
    | replay _ _ r _ _ _ _ _ _ _ outcome =>
      change x.response.outcome = .stored r at outcome
      rw [outcome] at hstorable
      contradiction

/-- An exchange that stores nothing leaves the disk as it is. -/
theorem disk_of_unstored {x : Exchange} (h : x.storedUnder? = none) :
    x.sent.engine.disk = x.engine.disk := by
  have hsent := x.sent_engine
  rw [h] at hsent
  rw [hsent, x.engine_eq]

theorem storedUnder?_of_lastStored {xs : List Exchange} {id : String} {y : Exchange}
    (h : lastStored xs id = some y) : y.storedUnder? = some id := by
  simpa using List.find?_some h

/-- The one replay of an exchange that replays. -/
theorem replayed_cases {x : Exchange} {id : String} (hmem : .replayed id ∈ x.journal) :
    ∃ seconds r later earlier, x.engine.probe id seconds = some r ∧
      x.response.outcome = .stored r ∧ x.journal = later ++ .replayed id :: earlier ∧
      Unwinds (.ok .stop) later := by
  cases x.ending with
  | nothing hquiet => exact absurd hmem (hquiet id)
  | replay id' seconds r later earlier single stored journal first unwound outcome =>
    have hid : id = id' := by
      rw [Exchange.journal, journal, List.mem_append, List.mem_cons] at hmem
      rcases hmem with hmem | hmem | hmem
      · exact (unwound _ hmem).elim
      · exact Event.replayed.inj hmem
      · exact absurd hmem (first id)
    subst hid
    exact ⟨seconds, r, later, earlier, stored, outcome, journal, unwound⟩

end Exchange

/-- A response that is replayed is sent as the one that was stored. -/
theorem Transmission.ofResponse_stored {x y : Response} (hx : x.outcome = .stored y.toStored)
    (hy : y.outcome.storable = true) (request : Headers) :
    x.render = y.render ∧ ofResponse x request = ofResponse y request := by
  have hrender : x.render = y.render := by
    simp only [Response.render, hx, Response.toStored]
  have hcompress : x.compressible = y.compressible := by
    simp only [Response.compressible, hx, Response.toStored]
    rcases Response.storable_cases hy with ⟨s, hs⟩ | ⟨e, he, -⟩
    · rw [hs]
    · rw [he]
  exact ⟨hrender, by rw [ofResponse, ofResponse, hrender, hcompress]⟩

namespace Session

/-- **Replays are faithful, and only successes are stored.**  Every exchange of a session
is what the engine answers.  If it replays the response of an id, it renders what the
exchange rendered whose response was stored last under that id before, sends what that
one would have sent to this client, and begins nothing behind the replay.  It ends with a
stored response in no other way.  If it stores its response, it is a success, and if it
does not, the disk is as it was. -/
theorem replays_are_faithful {newer older : List Exchange} {x : Exchange} {e : Engine}
    (hs : Session (newer ++ x :: older) e) :
    x.engine.answer x.fuel x.ask x.headers = some x.sent ∧
      (∀ id, .replayed id ∈ x.journal →
        ∃ y, lastStored older id = some y ∧
          x.response.render = y.response.render ∧
          x.sent.transmission = Transmission.ofResponse y.response x.headers ∧
          ∃ later earlier, x.journal = later ++ .replayed id :: earlier ∧
            Unwinds (.ok .stop) later) ∧
      ((∃ r, x.response.outcome = .stored r) ↔ ∃ id, .replayed id ∈ x.journal) ∧
      (∀ id, x.storedUnder? = some id → x.Succeeds) ∧
      (x.storedUnder? = none → x.sent.engine.disk = x.engine.disk) := by
  refine ⟨x.answer_eq_sent, fun id hmem => ?_, ⟨?_, ?_⟩,
    fun id => Exchange.succeeds_of_stored, Exchange.disk_of_unstored⟩
  · obtain ⟨seconds, r, later, earlier, hprobe, houtcome, hjournal, hunwinds⟩ :=
      Exchange.replayed_cases hmem
    obtain ⟨bytes, hentry, hread⟩ := Engine.entry?_of_probe hprobe
    obtain ⟨y, hlast, hbytes⟩ := hs.before.entry hentry
    have hr : y.response.toStored = r := by
      rw [hbytes, StoredResponse.read?_write] at hread
      exact Option.some.inj hread
    have hstorable := Response.storable_of_storeUnder? (Exchange.storedUnder?_of_lastStored hlast)
    obtain ⟨hrender, hsent⟩ := Transmission.ofResponse_stored (hr ▸ houtcome) hstorable x.headers
    exact ⟨y, hlast, hrender, hsent, later, earlier, hjournal, hunwinds⟩
  · rintro ⟨r, hr⟩
    cases x.ending with
    | nothing _ outcome => exact absurd hr (outcome r)
    | replay id _ _ later earlier _ _ journal =>
      refine ⟨id, ?_⟩
      rw [Exchange.journal, journal]
      exact List.mem_append_right later List.mem_cons_self
  · rintro ⟨id, hmem⟩
    obtain ⟨-, r, -, -, -, houtcome, -⟩ := Exchange.replayed_cases hmem
    exact ⟨r, houtcome⟩

/-- A program that queues a header line of its own before it asks for a stored response. -/
def greeting : List Node :=
  [{ name := "header", attributes := [("line", "X-Visit: {form.visit}")] },
   { name := "cache", attributes := [("id", "greeting"), ("expires", "60")] },
   { name := "reply", attributes := [("value", "welcome")] }]

/-- An engine with one program, and nothing stored. -/
def greetingEngine : Engine := { origin := .library (Library.insert {} "greet" greeting) }

/-- A request for that program. -/
def greetingAsk (visit : String) : Ask := .single ⟨"greet", [("visit", .text visit)]⟩

/-- The first request, whose response is stored. -/
def firstVisit : Exchange :=
  .ofWork greetingEngine 3 (greetingAsk "1") [] (by decide +kernel)

/-- The second request, which replays it. -/
def secondVisit : Exchange :=
  .ofWork firstVisit.sent.engine 3 (greetingAsk "2") [] (by decide +kernel)

theorem secondVisit_eq :
    (secondVisit.storedUnder?, secondVisit.journal.replayed?,
      secondVisit.response.settings.headers) = (none, some "greeting", ["X-Visit: 2"]) := by
  decide +kernel

theorem session_visits : Session ([] ++ secondVisit :: [firstVisit]) secondVisit.sent.engine := by
  have hempty : greetingEngine.cacheEntries.isEmpty = true := by decide +kernel
  have hplain : Folder.Plain (pathNames greetingEngine.cacheFolder) := by
    unfold Folder.Plain
    decide +kernel
  have hmade : (greetingEngine.disk.makeFolders greetingEngine.cacheFolder).isOk = true := by
    decide +kernel
  have hsecond : secondVisit.storedUnder? = none := congrArg Prod.fst secondVisit_eq
  refine .answered secondVisit (.answered firstVisit (.opened fun id => ?_) fun _ => ?_) ?_
  · have hnone : greetingEngine.cacheEntries = [] := List.isEmpty_iff.mp hempty
    change greetingEngine.entry? id = none
    rw [Engine.entry?, hnone]
    rfl
  · cases hfolder : greetingEngine.disk.makeFolders greetingEngine.cacheFolder with
    | error err =>
      rw [hfolder] at hmade
      exact absurd hmade Bool.false_ne_true
    | ok made => exact ResponseCache.writable_of_plain hplain hfolder
  · exact fun h => absurd hsecond h

theorem replayed_secondVisit : .replayed "greeting" ∈ secondVisit.journal := by
  have hreplayed : secondVisit.journal.replayed? = some "greeting" :=
    congrArg (fun t => t.2.1) secondVisit_eq
  obtain ⟨later, earlier, hjournal⟩ := Journal.exists_of_replayed? hreplayed
  rw [hjournal]
  exact List.mem_append_right later List.mem_cons_self

theorem replays_are_faithful_visits :
    Session ([] ++ secondVisit :: [firstVisit]) secondVisit.sent.engine ∧
      .replayed "greeting" ∈ secondVisit.journal ∧
      secondVisit.response.settings.headers = ["X-Visit: 2"] ∧
      ∃ y, lastStored [firstVisit] "greeting" = some y ∧
        secondVisit.response.render = y.response.render := by
  obtain ⟨y, hlast, hrender, -⟩ :=
    (replays_are_faithful session_visits).2.1 "greeting" replayed_secondVisit
  have hheaders : secondVisit.response.settings.headers = ["X-Visit: 2"] :=
    congrArg (fun t => t.2.2) secondVisit_eq
  exact ⟨session_visits, replayed_secondVisit, hheaders, y, hlast, hrender⟩

end Session

end ActionTree
