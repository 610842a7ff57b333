import ActionTree.Proofs.Batch

/-!
# ActionTree.Proofs.SharedPrograms

Two engines that share the programs that they keep.

1. what is kept was read and checked by one of the engines, at a time when its own source
   reported the stamp (`Sharing.readBefore`);
2. as long as a stamp has one *meaning* for both engines, all that is kept has it
   (`Sharing.Means`, `Sharing.shared_keepsMeaning`), and every load gives what it gives with a
   cache of one's own: what the source holds, checked;
3. but a stamp says nothing of the engine that it comes from.  Two libraries count their
   insertions alike, so an engine may be handed nodes that only the other one holds, or that
   only the other one knows.
-/

namespace ActionTree

open Text
open ProgramCache (readFresh readFresh_eq_ok)

/-! ## Sharing -/

/-- One of two engines. -/
inductive Side where
  | left
  | right
deriving DecidableEq, Repr

/-- Two engines and the programs that both of them keep.  What an engine keeps by itself is
not looked at. -/
structure Sharing where
  engine : Side → Engine
  programs : ProgramCache := []

/-- What may happen to one of the engines: a program is put into its library, the files on
its disk change, or it loads a program. -/
inductive Move where
  | insert (side : Side) (id : String) (nodes : List Node)
  | files (side : Side) (disk : Disk)
  | load (side : Side) (id : String)

/-- The engine with the programs that it keeps replaced. -/
def Engine.keeping (e : Engine) (programs : ProgramCache) : Engine :=
  { e with programs := programs }

/-- The engine on one side with what a move changes of the place that its programs come
from. -/
def Engine.changed (side : Side) (e : Engine) : Move → Engine
  | .insert mover id nodes => if mover = side then e.insertProgram id nodes else e
  | .files mover disk => if mover = side then e.onDisk disk else e
  | .load _ _ => e

/-- The engine on one side after a move, with programs of its own kept. -/
def Engine.afterMove (side : Side) (e : Engine) : Move → Engine
  | .load mover id => if mover = side then (e.load id).2 else e
  | m => e.changed side m

namespace Sharing

/-- An engine on the shared programs. -/
def user (s : Sharing) (side : Side) : Engine := (s.engine side).keeping s.programs

/-- What a load on one side gives. -/
def load (s : Sharing) (side : Side) (id : String) : Except Error Program :=
  ((s.user side).load id).1

/-- The engines after a move. -/
def after (s : Sharing) (m : Move) : Sharing where
  engine side := (s.engine side).changed side m
  programs :=
    match m with
    | .load side id => ((s.user side).load id).2.programs
    | _ => s.programs

/-- Two engines after moves, with nothing kept at first. -/
def shared (engine : Side → Engine) (moves : List Move) : Sharing :=
  moves.foldl after { engine }

/-- One of the engines after the same moves, with a cache of its own. -/
def alone (engine : Side → Engine) (moves : List Move) (side : Side) : Engine :=
  moves.foldl (Engine.afterMove side) ((engine side).keeping [])

/-- The present reading of a program by one of the engines, under the stamp that its source
reports. -/
def Reads (s : Sharing) (side : Side) (id : String) (p : Program) : Prop :=
  (s.engine side).source.stamp id = .ok p.stamp ∧
    readFresh (s.engine side).source (s.engine side).registry id p.stamp = .ok p

/-! ## Steps -/

variable {engine : Side → Engine} {moves : List Move} {side : Side}

theorem shared_concat (engine : Side → Engine) (moves : List Move) (m : Move) :
    shared engine (moves ++ [m]) = (shared engine moves).after m := by
  rw [shared, List.foldl_append]
  rfl

theorem alone_concat (engine : Side → Engine) (moves : List Move) (m : Move) (side : Side) :
    alone engine (moves ++ [m]) side = (alone engine moves side).afterMove side m := by
  rw [alone, List.foldl_append]
  rfl

/-- Only a load changes what is kept, and it changes it as the engine would. -/
theorem after_programs (s : Sharing) (m : Move) :
    (s.after m).programs = s.programs ∨
      ∃ side id, (s.after m).programs =
        (s.programs.load (s.engine side).source (s.engine side).registry id).2 := by
  cases m with
  | insert side id nodes => exact .inl rfl
  | files side disk => exact .inl rfl
  | load side id => exact .inr ⟨side, id, rfl⟩

/-- A move changes an engine whatever it keeps. -/
theorem changed_keeping (e : Engine) (programs : ProgramCache) (m : Move) :
    (e.changed side m).keeping programs = (e.keeping programs).changed side m := by
  obtain ⟨config, registry, services, origin, kept, disk⟩ := e
  cases m with
  | insert mover id nodes =>
    rw [Engine.changed, Engine.changed]
    split
    · cases origin <;> rfl
    · rfl
  | files mover disk =>
    rw [Engine.changed, Engine.changed]
    split <;> rfl
  | load mover id => rfl

theorem changed_programs (e : Engine) (m : Move) : (e.changed side m).programs = e.programs :=
  (congrArg Engine.programs (changed_keeping e e.programs m)).symm

/-- With a cache of its own an engine is the same but for what is kept. -/
theorem alone_keeping (engine : Side → Engine) (moves : List Move) (side : Side) :
    (alone engine moves side).keeping [] = ((shared engine moves).engine side).keeping [] := by
  induction moves using List.reverseRecOn with
  | nil => rfl
  | append_singleton moves m ih =>
    have hafter : ((alone engine moves side).afterMove side m).keeping [] =
        ((alone engine moves side).keeping []).changed side m := by
      rw [← changed_keeping]
      cases m with
      | insert mover id nodes => rfl
      | files mover disk => rfl
      | load mover id =>
        rw [Engine.afterMove]
        split <;> rfl
    rw [alone_concat, shared_concat, hafter, ih, ← changed_keeping]
    rfl

/-! ## Readings -/

/-- Whatever is kept was read at some time, by one of the engines. -/
theorem readBefore {id : String} {p : Program}
    (h : (shared engine moves).programs.get? id = some p) :
    ∃ earlier reader, earlier <+: moves ∧ (shared engine earlier).Reads reader id p := by
  induction moves using List.reverseRecOn with
  | nil => contradiction
  | append_singleton moves m ih =>
    have hkept (hget : (shared engine moves).programs.get? id = some p) :
        ∃ earlier reader, earlier <+: moves ++ [m] ∧ (shared engine earlier).Reads reader id p := by
      obtain ⟨earlier, reader, hearlier, hread⟩ := ih hget
      exact ⟨earlier, reader, hearlier.trans (List.prefix_append moves [m]), hread⟩
    rw [shared_concat] at h
    rcases after_programs (shared engine moves) m with hsame | ⟨reader, key, hload⟩
    · exact hkept (by rwa [hsame] at h)
    · rw [hload] at h
      rcases ProgramCache.load_cases (shared engine moves).programs _ _ key with
        ⟨e, hc⟩ | ⟨stamp, q, -, -, hc⟩ | ⟨stamp, q, hstamp, hread, hc⟩
      · exact hkept (by rwa [hc] at h)
      · exact hkept (by rwa [hc] at h)
      · rw [hc, ProgramCache.get?_insert] at h
        split at h
        · next hid =>
          obtain rfl := Option.some.inj h
          obtain ⟨nodes, -, -, rfl⟩ := readFresh_eq_ok.mp hread
          subst hid
          exact ⟨moves, reader, List.prefix_append moves [m], hstamp, hread⟩
        · exact hkept h

/-! ## Meanings -/

/-- What an engine reads of a program is what the stamp of it means. -/
def Means (meaning : String → Stamp → Except Error Program) (e : Engine) : Prop :=
  ∀ id stamp, e.source.stamp id = .ok stamp →
    readFresh e.source e.registry id stamp = meaning id stamp

/-- What is kept is what its stamp means. -/
def KeepsMeaning (meaning : String → Stamp → Except Error Program) (c : ProgramCache) : Prop :=
  ∀ id p, c.get? id = some p → meaning id p.stamp = .ok p

section Meanings

variable {meaning : String → Stamp → Except Error Program} {e : Engine} {c : ProgramCache}

theorem KeepsMeaning.faithful (hc : KeepsMeaning meaning c) (he : Means meaning e) :
    c.Faithful e.source e.registry := by
  intro id stamp p hstamp hcurrent
  obtain ⟨hget, rfl⟩ := ProgramCache.current?_eq_some.mp hcurrent
  rw [he id p.stamp hstamp, hc id p hget]

theorem KeepsMeaning.load (hc : KeepsMeaning meaning c) (he : Means meaning e) (id : String) :
    KeepsMeaning meaning (c.load e.source e.registry id).2 := by
  rcases c.load_cases e.source e.registry id with
    ⟨e', h⟩ | ⟨stamp, p, -, -, h⟩ | ⟨stamp, p, hstamp, hread, h⟩
  · rwa [h]
  · rwa [h]
  · rw [h]
    intro key q hq
    rw [ProgramCache.get?_insert] at hq
    split at hq
    · next hkey =>
      obtain rfl := Option.some.inj hq
      obtain ⟨nodes, -, -, rfl⟩ := readFresh_eq_ok.mp hread
      rw [hkey, ← he id stamp hstamp]
      exact hread
    · exact hc key q hq

/-- Where stamps have a meaning all that is kept has it. -/
theorem shared_keepsMeaning (hmeans : ∀ earlier, earlier <+: moves → ∀ side,
    Means meaning ((shared engine earlier).engine side)) :
    KeepsMeaning meaning (shared engine moves).programs := by
  induction moves using List.reverseRecOn with
  | nil => exact nofun
  | append_singleton moves m ih =>
    have hbefore := ih fun earlier hearlier =>
      hmeans earlier (hearlier.trans (List.prefix_append moves [m]))
    rw [shared_concat]
    rcases after_programs (shared engine moves) m with hsame | ⟨reader, key, hload⟩
    · rwa [hsame]
    · rw [hload]
      exact hbefore.load (hmeans moves (List.prefix_append moves [m]) reader) key

theorem means_alone (hmeans : Means meaning ((shared engine moves).engine side)) :
    Means meaning (alone engine moves side) := by
  change Means meaning (((shared engine moves).engine side).keeping []) at hmeans
  rw [← alone_keeping] at hmeans
  exact hmeans

theorem alone_keepsMeaning (hmeans : ∀ earlier, earlier <+: moves → ∀ side,
    Means meaning ((shared engine earlier).engine side)) :
    KeepsMeaning meaning (alone engine moves side).programs := by
  induction moves using List.reverseRecOn with
  | nil => exact nofun
  | append_singleton moves m ih =>
    have hbefore := ih fun earlier hearlier =>
      hmeans earlier (hearlier.trans (List.prefix_append moves [m]))
    have hchanged : KeepsMeaning meaning ((alone engine moves side).changed side m).programs := by
      rwa [changed_programs]
    rw [alone_concat]
    cases m with
    | insert mover id nodes => exact hchanged
    | files mover disk => exact hchanged
    | load mover id =>
      rw [Engine.afterMove]
      split
      · exact hbefore.load (means_alone (hmeans moves (List.prefix_append moves _) side)) id
      · exact hbefore

end Meanings

/-! ## Loads -/

/-- A load that fails would have failed the same way with nothing kept. -/
theorem load_nil_of_error {c : ProgramCache} {source : Source} {registry : Registry} {id : String}
    {e : Error} (h : (c.load source registry id).1 = .error e) :
    (ProgramCache.load [] source registry id).1 = .error e := by
  have hempty (stamp : Stamp) : ProgramCache.current? [] id stamp = none := rfl
  unfold ProgramCache.load at h ⊢
  cases hstamp : source.stamp id with
  | error e' => rwa [hstamp] at h
  | ok stamp =>
    simp only [hstamp, hempty] at h ⊢
    cases hcurrent : c.current? id stamp with
    | some p =>
      rw [hcurrent] at h
      contradiction
    | none =>
      rw [hcurrent] at h
      cases hread : readFresh source registry id stamp with
      | error e' => rwa [hread] at h
      | ok p =>
        rw [hread] at h
        contradiction

/-- With nothing kept a load gives what the source holds, checked. -/
theorem holds_of_load_nil {source : Source} {registry : Registry} {id : String} {p : Program}
    (h : (ProgramCache.load [] source registry id).1 = .ok p) :
    source.nodes id = .ok p.nodes ∧ registry.check p.nodes = .ok () := by
  rcases ProgramCache.load_cases [] source registry id with
    ⟨e, hload⟩ | ⟨stamp, q, -, hq, -⟩ | ⟨stamp, q, -, hread, hload⟩
  · rw [hload] at h
    contradiction
  · contradiction
  · rw [hload] at h
    obtain rfl := Except.ok.inj h
    obtain ⟨nodes, hnodes, hcheck, rfl⟩ := readFresh_eq_ok.mp hread
    exact ⟨hnodes, hcheck⟩

/-- What a load gives was read by one of the engines, now or before, under the stamp that the
loading engine's source reports now. -/
theorem reads_of_load {id : String} {p : Program}
    (hload : (shared engine moves).load side id = .ok p) :
    ((shared engine moves).engine side).source.stamp id = .ok p.stamp ∧
      ∃ earlier reader, earlier <+: moves ∧ (shared engine earlier).Reads reader id p := by
  generalize hsource : ((shared engine moves).engine side).source = source
  generalize hregistry : ((shared engine moves).engine side).registry = registry
  change (((shared engine moves).programs.load ((shared engine moves).engine side).source
    ((shared engine moves).engine side).registry id).1 = .ok p) at hload
  rw [hsource, hregistry] at hload
  rcases ProgramCache.load_cases (shared engine moves).programs source registry id with
    ⟨e, h⟩ | ⟨stamp, q, hstamp, hcurrent, h⟩ | ⟨stamp, q, hstamp, hread, h⟩
  · rw [h] at hload
    contradiction
  · rw [h] at hload
    obtain rfl := Except.ok.inj hload
    obtain ⟨hget, rfl⟩ := ProgramCache.current?_eq_some.mp hcurrent
    exact ⟨hstamp, readBefore hget⟩
  · rw [h] at hload
    obtain rfl := Except.ok.inj hload
    obtain ⟨nodes, -, -, rfl⟩ := readFresh_eq_ok.mp hread
    subst hsource hregistry
    exact ⟨hstamp, moves, side, List.prefix_rfl, hstamp, hread⟩

section Meanings

variable {meaning : String → Stamp → Except Error Program}
  (hmeans : ∀ earlier, earlier <+: moves → ∀ side,
    Means meaning ((shared engine earlier).engine side))

include hmeans

/-- Where stamps have a meaning, a cache of one's own makes no difference to a load. -/
theorem load_alone (id : String) :
    ((alone engine moves side).load id).1 = (((alone engine moves side).keeping []).load id).1 :=
  ((alone_keepsMeaning hmeans).faithful
    (means_alone (hmeans moves List.prefix_rfl side))).load_eq id

/-- Nor does a shared one. -/
theorem load_eq_alone (id : String) :
    (shared engine moves).load side id = ((alone engine moves side).load id).1 := by
  rw [load_alone hmeans, alone_keeping]
  exact ((shared_keepsMeaning hmeans).faithful (hmeans moves List.prefix_rfl side)).load_eq id

end Meanings

/-- **Engines share programs safely as long as a stamp means one thing to all of them.**

Whatever is inserted, written and loaded on two engines that share one cache, each with its
own programs and its own instructions:

1. what a load gives was read and checked by one of the engines, now or before, when its
   source reported the stamp that the source of the loading engine reports now;
2. a load that fails fails as it would with nothing kept;
3. if what an engine reads under a stamp is at all times what the stamp means, a load gives
   what it gives with a cache of one's own, and that is what the source holds, checked. -/
theorem shared_loads (engine : Side → Engine) (moves : List Move) :
    (∀ side id p, (shared engine moves).load side id = .ok p →
        ((shared engine moves).engine side).source.stamp id = .ok p.stamp ∧
          ∃ earlier reader, earlier <+: moves ∧ (shared engine earlier).Reads reader id p) ∧
      (∀ side id e, (shared engine moves).load side id = .error e →
        ((((shared engine moves).engine side).keeping []).load id).1 = .error e) ∧
      ∀ meaning, (∀ earlier, earlier <+: moves → ∀ side,
          Means meaning ((shared engine earlier).engine side)) →
        ∀ side id, (shared engine moves).load side id = ((alone engine moves side).load id).1 ∧
          ∀ p, (shared engine moves).load side id = .ok p →
            ((shared engine moves).engine side).source.nodes id = .ok p.nodes ∧
              ((shared engine moves).engine side).registry.check p.nodes = .ok () := by
  refine ⟨fun side id p => reads_of_load, fun side id e => load_nil_of_error,
    fun meaning hmeans side id => ⟨load_eq_alone hmeans id, fun p hp => ?_⟩⟩
  rw [load_eq_alone hmeans, load_alone hmeans, alone_keeping] at hp
  exact holds_of_load_nil hp

/-- Two engines with nothing in their libraries, one of which has an instruction more. -/
def twoLibraries : Side → Engine
  | .left => { origin := .library {}, registry := { markers := ["shout"] } }
  | .right => { origin := .library {} }

/-- Each library gets a program under one id, and the left engine loads its own. -/
def insertedApart (left right : List Node) : List Move :=
  [.insert .left "p" left, .insert .right "p" right, .load .left "p"]

/-- The program of one node that is inserted first. -/
def firstProgram (name : String) : Program := ⟨"p", [{ name }], .written 1⟩

/-- A library with one program has one meaning. -/
theorem means_firstProgram {e : Engine} {name : String}
    (hsource : e.source = Library.source {} ∨
      e.source = (Library.insert {} "p" [{ name }]).source)
    (hcheck : e.registry.check [{ name }] = .ok ()) :
    Means (fun _ _ => .ok (firstProgram name)) e := by
  intro id stamp hstamp
  rcases hsource with hsource | hsource
  · rw [hsource] at hstamp
    contradiction
  · rw [hsource] at hstamp ⊢
    simp only [Library.source, Library.get?_insert] at hstamp
    by_cases hid : id = "p"
    · subst hid
      rw [if_pos rfl] at hstamp
      obtain rfl := Except.ok.inj hstamp
      exact readFresh_eq_ok.mpr ⟨[{ name }], rfl, hcheck, rfl⟩
    · rw [if_neg hid] at hstamp
      contradiction

/-- What both libraries hold of one program has one meaning at all times. -/
theorem means_insertedApart (earlier : List Move)
    (hearlier : earlier <+: insertedApart [{ name := "stop" }] [{ name := "stop" }]) (side : Side) :
    Means (fun _ _ => .ok (firstProgram "stop")) ((shared twoLibraries earlier).engine side) := by
  have htime := (List.mem_inits _ _).mpr hearlier
  simp only [insertedApart, List.inits, List.map_cons, List.map_nil,
    List.mem_cons, List.not_mem_nil, or_false] at htime
  rcases htime with rfl | rfl | rfl | rfl <;> cases side <;> refine means_firstProgram ?_ rfl
  · exact .inl rfl
  · exact .inl rfl
  · exact .inr rfl
  · exact .inl rfl
  · exact .inr rfl
  · exact .inr rfl
  · exact .inr rfl
  · exact .inr rfl

theorem shared_loads_first_program :
    let s := shared twoLibraries (insertedApart [{ name := "stop" }] [{ name := "stop" }])
    s.load .right "p" = .ok (firstProgram "stop") ∧
      s.load .right "p" = ((alone twoLibraries
        (insertedApart [{ name := "stop" }] [{ name := "stop" }]) .right).load "p").1 ∧
      (s.engine .right).source.nodes "p" = .ok [{ name := "stop" }] ∧
      s.load .right "q" = .error (.missingProgram "q") ∧
      (((s.engine .right).keeping []).load "q").1 = .error (.missingProgram "q") := by
  intro s
  obtain ⟨-, herror, hmeant⟩ :=
    shared_loads twoLibraries (insertedApart [{ name := "stop" }] [{ name := "stop" }])
  obtain ⟨halone, hholds⟩ := hmeant _ means_insertedApart .right "p"
  have hload : s.load .right "p" = .ok (firstProgram "stop") := rfl
  have hmissing : s.load .right "q" = .error (.missingProgram "q") := rfl
  exact ⟨hload, halone, (hholds _ hload).1, hmissing, herror .right "q" _ hmissing⟩

/-- Two engines that read their programs from a folder. -/
def twoFolders : Side → Engine := fun _ => { origin := .folder }

/-- A disk with one document, which was always written at the same time. -/
def oneDocument (text : String) : Disk where
  top := [(".actionflow", .folder [("programs", .folder
    [("p.xml", .file (encode text) (.written 1))])])]

/-- A document is loaded, and then rewritten under the same stamp. -/
def rewritten : List Move :=
  [.files .left (oneDocument "<program><stop/></program>"), .load .left "p",
    .files .left (oneDocument "<program><break/></program>")]

/-- **Sharing is not safe in general.**  Both libraries number their first insertion alike.  So
the right engine is handed the nodes of the left one in place of those that its own source
holds, and nodes that its own instructions reject.  And where one source reports an old stamp
for other nodes, an engine is handed what its own source held before. -/
theorem shared_load_hands_over_foreign_nodes :
    (¬ ∀ engine moves side id,
        (shared engine moves).load side id = ((alone engine moves side).load id).1) ∧
      (shared twoLibraries (insertedApart [{ name := "stop" }] [{ name := "break" }])).load
        .right "p" = .ok (firstProgram "stop") ∧
      ((alone twoLibraries (insertedApart [{ name := "stop" }] [{ name := "break" }])
        .right).load "p").1 = .ok (firstProgram "break") ∧
      (shared twoLibraries (insertedApart [{ name := "shout" }] [{ name := "shout" }])).load
        .right "p" = .ok (firstProgram "shout") ∧
      ((alone twoLibraries (insertedApart [{ name := "shout" }] [{ name := "shout" }])
        .right).load "p").1 = .error (.unknownInstruction "shout") ∧
      ((shared twoFolders rewritten).load .left "p").toOption.map
        (fun p => p.nodes.map Node.name) = some ["stop"] ∧
      (((shared twoFolders rewritten).engine .left).source.nodes "p").toOption.map
        (fun nodes => nodes.map Node.name) = some ["break"] := by
  have hshared : (shared twoLibraries (insertedApart [{ name := "shout" }]
      [{ name := "shout" }])).load .right "p" = .ok (firstProgram "shout") := rfl
  have halone : ((alone twoLibraries (insertedApart [{ name := "shout" }] [{ name := "shout" }])
      .right).load "p").1 = .error (.unknownInstruction "shout") := rfl
  refine ⟨fun hsafe => ?_, rfl, rfl, hshared, halone, by decide +kernel, by decide +kernel⟩
  have hsame := hsafe twoLibraries (insertedApart [{ name := "shout" }] [{ name := "shout" }])
    .right "p"
  rw [hshared, halone] at hsame
  contradiction

end Sharing

end ActionTree
