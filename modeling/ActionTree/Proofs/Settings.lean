import ActionTree.Proofs.Files
import ActionTree.Proofs.JsonLayout
import ActionTree.Storage

/-!
# ActionTree.Proofs.Settings

The settings of an engine, read back from the file they were written to.

1. every setting is read back as one of the kind that its field has (`Config.holds_toRecord`);
2. a record of some of the settings, in any order and with any blanks, is read as these, and
   as the defaults of the others (`Config.read_of_laidOut`);
3. the file that was written has all settings in it, so what is loaded are the settings that
   were written (`Storage.loadConfig_of_laidOut`).
-/

namespace ActionTree

open Json Text

namespace Record

/-- What is found among the entries whose keys are kept. -/
theorem get?_filter (r : Record) (kept : String → Bool) (key : String) :
    get? (r.filter fun e => kept e.1) key = if kept key then get? r key else none := by
  induction r with
  | nil => simp [get?]
  | cons e r ih =>
    obtain ⟨k, v⟩ := e
    rw [List.filter_cons, get?]
    by_cases hkey : k = key
    · subst hkey
      split
      · rw [get?, if_pos rfl, if_pos rfl]
      · next hkept => rw [ih, if_neg hkept]
    · rw [if_neg hkey]
      split
      · rw [get?, if_neg hkey, ih]
      · exact ih

end Record

namespace Config

/-! ## Settings that were left out -/

/-- The settings that are kept, and the defaults of the others. -/
def keeping (c : Config) (kept : String → Bool) : Config where
  root := if kept "root" then c.root else ({} : Config).root
  maxCallDepth := if kept "max_call_depth" then c.maxCallDepth else ({} : Config).maxCallDepth
  exportMarker := if kept "export_marker" then c.exportMarker else ({} : Config).exportMarker
  format := if kept "default_format" then c.format else ({} : Config).format
  debug := if kept "debug" then c.debug else ({} : Config).debug

/-- The values of the settings in their order. -/
def values (c : Config) : List Value := c.toRecord.map Prod.snd

theorem ofFields_values (c : Config) : ofFields c.values = c := by
  obtain ⟨root, depth, marker, format, debug⟩ := c
  have hformat : (Format.ofName? format.name).getD .json = format := by cases format <;> rfl
  simp only [values, toRecord, List.map_cons, List.map_nil, Value.nat, ofFields, hformat,
    Int.toNat_natCast]

theorem distinct_toRecord (c : Config) : Record.Distinct c.toRecord := by
  change List.Nodup ["root", "max_call_depth", "export_marker", "default_format", "debug"]
  decide

/-- What is left out is filled in. -/
theorem fill_kept {c : Config} {kept : String → Bool} {es : Record}
    (hdistinct : Record.Distinct es) (hes : es.Perm (c.toRecord.filter fun e => kept e.1)) :
    Schema.fill es schema.fields = .ok (c.keeping kept).values := by
  have hget (key : String) :
      Record.get? es key = if kept key then Record.get? c.toRecord key else none := by
    rw [Record.get?_of_perm hdistinct hes, Record.get?_filter]
  have hor (b : Bool) (v w : Value) :
      (if b then some v else none).or (some w) = some (if b then v else w) := by
    cases b <;> rfl
  have hfill : Schema.fill es schema.fields = .ok
      [if kept "root" then .text c.root else .text ".actionflow",
       if kept "max_call_depth" then .nat c.maxCallDepth else .nat 32,
       if kept "export_marker" then .text c.exportMarker else .text "@",
       if kept "default_format" then .text c.format.name else .text "json",
       if kept "debug" then .boolean c.debug else .boolean false] := by
    simp [schema, Schema.fill, hget, Record.get?, toRecord, hor]
  rw [hfill]
  simp only [values, toRecord, keeping, List.map_cons, List.map_nil, apply_ite Value.text,
    apply_ite Value.nat, apply_ite Value.boolean, apply_ite Format.name]
  rfl

/-! ## Reading -/

/-- Every setting is read back as one of its field's kind. -/
theorem holds_toRecord {c : Config} (hdepth : c.maxCallDepth < depthLimit) :
    schema.Holds c.toRecord := by
  have hformat : (Format.all.map Format.name).contains c.format.name = true := by
    cases c.format <;> decide
  intro e he
  simp only [toRecord, List.mem_cons, List.not_mem_nil, or_false] at he
  rcases he with rfl | rfl | rfl | rfl | rfl
  · exact ⟨_, rfl, readBack_textKind "path string" _⟩
  · exact ⟨_, rfl, readBack_natural hdepth (Nat.le_refl _) "usize"⟩
  · exact ⟨_, rfl, readBack_textKind "a string" _⟩
  · exact ⟨_, rfl, readBack_word hformat⟩
  · exact ⟨_, rfl, readBack_flag _⟩

theorem laidOut_write (c : Config) : LaidOut c.toRecord c.write.toList := by
  refine laidOut_wide fun e he => ?_
  simp only [toRecord, List.mem_cons, List.not_mem_nil, or_false] at he
  rcases he with rfl | rfl | rfl | rfl | rfl <;> exact fun _ _ => rfl

/-- A layout of the settings that are kept is read as these, and as the defaults of the others;
the root is where the text was found. -/
theorem read_of_laidOut {c : Config} (hdepth : c.maxCallDepth < depthLimit)
    {kept : String → Bool} {es : Record} (hes : es.Perm (c.toRecord.filter fun e => kept e.1))
    {source : List Char} (hsource : LaidOut es source) (root : String) :
    read root source = .ok { c.keeping kept with root := root } := by
  have hkept : Record.Distinct (c.toRecord.filter fun e => kept e.1) :=
    (distinct_toRecord c).sublist (List.filter_sublist.map Prod.fst)
  have hdistinct : Record.Distinct es := (hes.map Prod.fst).nodup_iff.mpr hkept
  have hholds : schema.Holds es := fun e he =>
    holds_toRecord hdepth e (List.mem_of_mem_filter (hes.mem_iff.mp he))
  rw [read, Schema.read_of_laidOut hsource hholds hdistinct (fill_kept hdistinct hes), Except.map,
    ofFields_values]

end Config

namespace Storage

/-! ## The file of the settings -/

theorem loadConfig_of_laidOut {c : Config} (hdepth : c.maxCallDepth < Config.depthLimit)
    (kept : String → Bool) {es : Record} (hes : es.Perm (c.toRecord.filter fun e => kept e.1))
    {text : String} (htext : LaidOut es text.toList) {d : Disk} {root : String}
    (hread : d.read (configPath root) = .ok (encode text)) :
    loadConfig d root = .ok { c.keeping kept with root := root } := by
  rw [loadConfig, hread]
  dsimp only
  rw [readBytes_encode, Config.read_of_laidOut hdepth hes htext root]
  rfl

/-- What was written is in the file. -/
theorem read_of_writeConfig {d d' : Disk} {token : String} {c : Config}
    (h : writeConfig d token c = .ok d') : d'.read (configPath c.root) = .ok (encode c.write) := by
  rw [writeConfig, replaceFile] at h
  split at h
  · contradiction
  · split at h
    · contradiction
    · next hwrite =>
      cases h
      exact Disk.read_write hwrite

/-- **Settings are read back.**  The settings that were written are the ones that are loaded;
and from a file that has some of them only, in any order and with any blanks, these are loaded
and the defaults of the others.  The root is always the folder that is loaded from. -/
theorem settings_read_back (c : Config) (hdepth : c.maxCallDepth < Config.depthLimit) :
    (∀ (d d' : Disk) (token : String), writeConfig d token c = .ok d' →
      loadConfig d' c.root = .ok c) ∧
    ∀ (kept : String → Bool) (es : Record) (text : String) (d : Disk) (root : String),
      es.Perm (c.toRecord.filter fun e => kept e.1) → LaidOut es text.toList →
      d.read (configPath root) = .ok (encode text) →
      loadConfig d root = .ok { c.keeping kept with root := root } := by
  refine ⟨fun d d' token h => ?_, fun kept es text d root hes htext hread => ?_⟩
  · have hall : c.toRecord.Perm (c.toRecord.filter fun _ => true) := by
      rw [List.filter_true]
    exact loadConfig_of_laidOut hdepth (fun _ => true) hall (Config.laidOut_write c)
      (read_of_writeConfig h)
  · exact loadConfig_of_laidOut hdepth kept hes htext hread

/-- Settings with the greatest depth, and a marker that has to be escaped. -/
def oddConfig : Config where
  root := "engine"
  maxCallDepth := 18446744073709551615
  exportMarker := "\"\\\n\x01é"
  format := .xmlDebug
  debug := true

/-- A disk with an empty folder. -/
def emptyEngine : Disk := { top := [("engine", .folder [])] }

/-- The text of settings that name a depth only. -/
def depthText : String := "\x7b\"max_call_depth\": 18446744073709551615\x7d"

/-- A disk with such settings. -/
def deepEngine : Disk where
  top := [("engine", .folder [("config.json", .file (encode depthText) (.written 0))])]

theorem settings_read_back_oddConfig :
    oddConfig.maxCallDepth < Config.depthLimit ∧
    (∃ d', writeConfig emptyEngine "0" oddConfig = .ok d' ∧
      loadConfig d' "engine" = .ok oddConfig) ∧
    loadConfig deepEngine "engine" =
      .ok { root := "engine", maxCallDepth := 18446744073709551615 } := by
  have hdepth : oddConfig.maxCallDepth < Config.depthLimit := by decide
  obtain ⟨hwritten, hkept⟩ := settings_read_back oddConfig hdepth
  have hwrite : writeConfig emptyEngine "0" oddConfig = .ok
      { top := [("engine", .folder [("config.json", .file (encode oddConfig.write) (.written 0))])],
        tick := 1 } := rfl
  have htext : depthText.toList =
      '{' :: writeText "max_call_depth" (':' :: ' ' :: write (.nat 18446744073709551615) ['}']) := by
    decide +kernel
  have hlaid : LaidOut [("max_call_depth", .nat 18446744073709551615)]
      depthText.toList := by
    rw [htext]
    exact ⟨_, .none, .entry (.first .none) .none (.more (by decide) .none) (.close .none .none)⟩
  have hread : deepEngine.read (configPath "engine") =
      .ok (encode depthText) := rfl
  exact ⟨hdepth, ⟨_, hwrite, hwritten _ _ _ hwrite⟩,
    hkept (· == "max_call_depth") _ _ deepEngine "engine" (.refl _) hlaid hread⟩

end Storage

end ActionTree
