import Mathlib
import ActionTree.Proofs.CacheEntry
import ActionTree.Proofs.JsonShape

/-!
# ActionTree.Proofs.CacheProbe

What a probe finds under an id.

1. what is stored is found again, until it is as old as asked for (`probe_eq_some_iff`);
2. what is found has a line of JSON in front of its body (`line_of_read?`), so an entry
   without a line feed, or with another line, is as good as none
   (`probe_eq_none_of_no_line`, `probe_eq_none_of_line`).

The line need not be UTF-8.  A text under a field that no response has is passed over and
may hold any bytes; what is read of the line is UTF-8.
-/

namespace ActionTree

open Text Json Json.Grammar

namespace StoredResponse

/-! ## The first line -/

/-- Cutting at the first line feed loses nothing but the line feed. -/
theorem eq_of_cutLine {bytes line body : List UInt8} (h : cutLine bytes = some (line, body)) :
    bytes = line ++ 0x0A :: body ∧ 0x0A ∉ line := by
  induction bytes generalizing line with
  | nil => contradiction
  | cons b bytes ih =>
    rw [cutLine] at h
    split at h
    · next hb =>
      cases h
      exact ⟨by rw [hb, List.nil_append], List.not_mem_nil⟩
    · next hb =>
      obtain ⟨⟨line', body'⟩, hcut, hpair⟩ := Option.map_eq_some_iff.mp h
      cases hpair
      obtain ⟨hbytes, hline⟩ := ih hcut
      refine ⟨by rw [hbytes, List.cons_append], ?_⟩
      rw [List.mem_cons, not_or]
      exact ⟨Ne.symm hb, hline⟩

/-- What is read from an entry has a line of JSON in front of its body.  A byte of no
character counts as a character of a text, and that text is passed over. -/
theorem line_of_read? {bytes : List UInt8} {r : StoredResponse} (h : read? bytes = some r) :
    ∃ line, bytes = line ++ 0x0A :: r.body ∧ 0x0A ∉ line ∧
      IsJson (charsOf line) ∧ PassesOver schema.read line := by
  rw [read?] at h
  split at h
  · contradiction
  · next line body hcut =>
    obtain ⟨hbytes, hline⟩ := eq_of_cutLine hcut
    split at h
    · next hread =>
      cases h
      obtain ⟨hpassed, hchars⟩ := (readBytes_eq_ok_iff _).mp hread
      exact ⟨line, hbytes, hline, isJson_of_read hchars, hpassed⟩
    · contradiction

end StoredResponse

namespace ResponseCache

/-! ## Probing -/

/-- The entry of an id has the given bytes and stamp. -/
def HasEntry (d : Disk) (folder id : String) (bytes : List UInt8) (stamp : Stamp) : Prop :=
  Folder.get? (entries d folder) (entryName id) = some (.file bytes stamp)

theorem hasEntry_store {d : Disk} {folder : String} (hd : Writable d folder) (id : String)
    (r : StoredResponse) :
    ∃ tick, HasEntry (store d folder id r) folder id r.write (.written tick) := by
  obtain ⟨tick, hentries⟩ := entries_store hd id r
  refine ⟨tick, ?_⟩
  rw [HasEntry, hentries, Folder.get?_set, if_pos rfl]

section Probe

variable {d : Disk} {folder id : String} {bytes : List UInt8} {stamp : Stamp} {maxAge : Nat}

theorem probe_of_hasEntry (h : HasEntry d folder id bytes stamp) (maxAge : Nat) :
    probe d folder id maxAge =
      if maxAge ≤ d.age stamp then none else StoredResponse.read? bytes := by
  rw [probe, show Folder.get? (entries d folder) (entryName id) = _ from h]

/-- A stored response is found until it is as old as asked for. -/
theorem probe_eq_some_iff {r : StoredResponse} (h : HasEntry d folder id r.write stamp) :
    probe d folder id maxAge = some r ↔ d.age stamp < maxAge := by
  rw [probe_of_hasEntry h, StoredResponse.read?_write]
  split
  · next hold => simp [Nat.not_lt.mpr hold]
  · next hyoung => simp [Nat.lt_of_not_le hyoung]

theorem read?_of_probe {r : StoredResponse} (h : HasEntry d folder id bytes stamp)
    (hprobe : probe d folder id maxAge = some r) : StoredResponse.read? bytes = some r := by
  rw [probe_of_hasEntry h] at hprobe
  split at hprobe
  · contradiction
  · exact hprobe

theorem probe_eq_none_of_no_line (h : HasEntry d folder id bytes stamp) (hline : 0x0A ∉ bytes) :
    probe d folder id maxAge = none := by
  refine Option.eq_none_iff_forall_ne_some.mpr fun r hprobe => hline ?_
  obtain ⟨line, hbytes, -⟩ := StoredResponse.line_of_read? (read?_of_probe h hprobe)
  rw [hbytes]
  exact List.mem_append_right line List.mem_cons_self

theorem probe_eq_none_of_line {line body : List UInt8}
    (h : HasEntry d folder id (line ++ 0x0A :: body) stamp) (hline : 0x0A ∉ line)
    (hjson : ¬ (IsJson (charsOf line) ∧ PassesOver StoredResponse.schema.read line)) :
    probe d folder id maxAge = none := by
  refine Option.eq_none_iff_forall_ne_some.mpr fun r hprobe => hjson ?_
  obtain ⟨line', hbytes, hline', hjson'⟩ :=
    StoredResponse.line_of_read? (read?_of_probe h hprobe)
  have hcut := StoredResponse.cutLine_append hline body
  rw [hbytes, StoredResponse.cutLine_append hline'] at hcut
  cases hcut
  exact hjson'

end Probe

/-! ## Stray bytes -/

/-- Bytes that are a JSON text. -/
def IsJsonText (bytes : List UInt8) : Prop :=
  ∃ text : String, bytes = encode text ∧ IsJson text.toList

/-- Bytes that are not UTF-8, but JSON if the stray ones among them count as characters of
the texts that they stand in, and those texts are passed over. -/
def StraysPassedOver (bytes : List UInt8) : Prop :=
  (∀ text : String, bytes ≠ encode text) ∧ IsJson (charsOf bytes) ∧
    PassesOver StoredResponse.schema.read bytes

/-- What a line has to be is to be a JSON text, but for stray bytes that are passed over. -/
theorem isJson_and_passesOver_iff (bytes : List UInt8) :
    IsJson (charsOf bytes) ∧ PassesOver StoredResponse.schema.read bytes ↔
      IsJsonText bytes ∨ StraysPassedOver bytes := by
  constructor
  · intro h
    by_cases hutf8 : ∃ text : String, bytes = encode text
    · obtain ⟨text, rfl⟩ := hutf8
      have hjson := h.1
      rw [charsOf_encode] at hjson
      exact .inl ⟨text, rfl, hjson⟩
    · exact .inr ⟨fun text hbytes => hutf8 ⟨text, hbytes⟩, h⟩
  · rintro (⟨text, rfl, h⟩ | ⟨-, h⟩)
    · refine ⟨?_, passesOver_encode _ text⟩
      rw [charsOf_encode]
      exact h
    · exact h

/-- A disk with an entry of the given bytes. -/
def diskWith (bytes : List UInt8) : Disk :=
  { top := [("cache", .folder [("6b.entry", .file bytes (.written 0))])] }

theorem hasEntry_diskWith (bytes : List UInt8) :
    HasEntry (diskWith bytes) "cache" "k" bytes (.written 0) := by
  rw [HasEntry]
  cbv

/-- A head with a field that no response has, whose text holds a byte of no character. -/
def strayLine : List UInt8 :=
  encode "\x7b\"headers\":[\"X-Note: a\"],\"note\":\"" ++ 0xFF :: encode "\"\x7d"

theorem not_isJsonText_strayLine : ¬ IsJsonText strayLine := by
  rintro ⟨text, hline, -⟩
  have hnone : decode? strayLine = none := by cbv
  rw [hline, decode?_encode] at hnone
  contradiction

/-- The line of an entry that is found need not be a JSON text. -/
theorem stray_bytes_found :
    HasEntry (diskWith (strayLine ++ 0x0A :: encode "hi")) "cache" "k"
        (strayLine ++ 0x0A :: encode "hi") (.written 0) ∧
      0x0A ∉ strayLine ∧ ¬ IsJsonText strayLine ∧
      probe (diskWith (strayLine ++ 0x0A :: encode "hi")) "cache" "k" 60 =
        some ⟨["X-Note: a"], encode "hi", false⟩ :=
  ⟨hasEntry_diskWith _, by decide +kernel, not_isJsonText_strayLine, by cbv⟩

/-! ## Round trip -/

/-- A stored response is found as it was stored, at once and for as long as it is younger
than asked for; and nothing is found in an entry without a line feed, or with a first line
that is not JSON, unless all that is wrong is stray bytes in texts that are passed over. -/
theorem entries_read_back {d : Disk} {folder : String} (hd : Writable d folder) (id : String)
    (r : StoredResponse) :
    (∃ tick, HasEntry (store d folder id r) folder id r.write (.written tick)) ∧
    (∀ maxAge, 0 < maxAge → probe (store d folder id r) folder id maxAge = some r) ∧
    (∀ (later : Disk) (stamp : Stamp) (maxAge : Nat), HasEntry later folder id r.write stamp →
      (probe later folder id maxAge = some r ↔ later.age stamp < maxAge)) ∧
    (∀ (later : Disk) (bytes : List UInt8) (stamp : Stamp) (maxAge : Nat),
      HasEntry later folder id bytes stamp → 0x0A ∉ bytes →
      probe later folder id maxAge = none) ∧
    ∀ (later : Disk) (line body : List UInt8) (stamp : Stamp) (maxAge : Nat),
      HasEntry later folder id (line ++ 0x0A :: body) stamp → 0x0A ∉ line →
      ¬ IsJsonText line → ¬ StraysPassedOver line → probe later folder id maxAge = none := by
  obtain ⟨tick, hstored⟩ := hasEntry_store hd id r
  refine ⟨⟨tick, hstored⟩, fun maxAge hpositive => ?_, fun later stamp maxAge h => ?_,
    fun later bytes stamp maxAge h hbytes => ?_,
    fun later line body stamp maxAge h hline htext hstrays => ?_⟩
  · exact (probe_eq_some_iff hstored).mpr hpositive
  · exact probe_eq_some_iff h
  · exact probe_eq_none_of_no_line h hbytes
  · refine probe_eq_none_of_line h hline fun hjson => ?_
    exact ((isJson_and_passesOver_iff line).mp hjson).elim htext hstrays

/-- A response whose header lines and body hold line feeds, quotes and what is not UTF-8. -/
def craftedResponse : StoredResponse :=
  ⟨["X-Note: a\nb", "X-Quote: \"\\\t\x01é"], [0x0A, 0xFF, 0x0A], true⟩

theorem writable_crafted : Writable {} "cache" := by
  have hplain : Folder.Plain (pathNames "cache") := by
    unfold Folder.Plain
    decide +kernel
  have hmade : Disk.makeFolders {} "cache" = .ok ⟨[("cache", .folder [])], 0, 0⟩ := by cbv
  exact writable_of_plain hplain hmade

/-- The letters that begin no word of JSON. -/
theorem not_isJson_no (cs : List Char) : ¬ IsJson ('n' :: 'o' :: cs) := by
  rintro ⟨rest, hled, -⟩
  cases hled with
  | mk hblanks hdatum =>
    cases hblanks with
    | more hblank => exact absurd hblank (by decide)
    | none =>
      cases hdatum with
      | number hmagnitude =>
        obtain ⟨hwhole, -⟩ := hmagnitude
        cases hwhole with
        | digits _ hdigits =>
          cases hdigits with
          | last hn => exact absurd hn (by decide)
          | more hn => exact absurd hn (by decide)

theorem not_isJson_corrupt : ¬ IsJson "not json".toList := by
  rw [show "not json".toList = 'n' :: 'o' :: "t json".toList by cbv]
  exact not_isJson_no _

/-- A head with a byte of no character in a header line. -/
def brokenLine : List UInt8 :=
  encode "\x7b\"headers\":[\"" ++ 0xFF :: encode "\"]\x7d"

theorem not_passesOver_brokenLine : ¬ PassesOver StoredResponse.schema.read brokenLine := by
  intro hpassed
  have hbroken : brokenTexts 0 none (decodeEach brokenLine) = [14] := by cbv
  have hread : readAt? StoredResponse.schema.read (charsOf brokenLine) 14 = some 2 := by cbv
  have hunread := hpassed 14 (by rw [hbroken]; exact List.mem_singleton_self 14)
  rw [hread] at hunread
  contradiction

theorem entries_read_back_crafted :
    Writable {} "cache" ∧
      probe (store {} "cache" "k" craftedResponse) "cache" "k" 60 = some craftedResponse ∧
      probe (diskWith (encode "no header line")) "cache" "k" 60 = none ∧
      probe (diskWith (encode "not json" ++ 0x0A :: encode "body")) "cache" "k" 60 = none ∧
      probe (diskWith (brokenLine ++ 0x0A :: encode "body")) "cache" "k" 60 = none := by
  obtain ⟨-, hfound, -, hline, hjson⟩ :=
    entries_read_back writable_crafted "k" craftedResponse
  have hcorrupt : ¬ (IsJsonText (encode "not json") ∨ StraysPassedOver (encode "not json")) := by
    rw [← isJson_and_passesOver_iff, charsOf_encode]
    exact fun h => not_isJson_corrupt h.1
  have hbroken : ¬ (IsJsonText brokenLine ∨ StraysPassedOver brokenLine) := by
    rw [← isJson_and_passesOver_iff]
    exact fun h => not_passesOver_brokenLine h.2
  rw [not_or] at hcorrupt hbroken
  refine ⟨writable_crafted, hfound 60 (by decide), ?_, ?_, ?_⟩
  · exact hline _ _ _ 60 (hasEntry_diskWith _) (by decide +kernel)
  · exact hjson _ _ _ _ 60 (hasEntry_diskWith _) (by decide +kernel) hcorrupt.1 hcorrupt.2
  · exact hjson _ _ _ _ 60 (hasEntry_diskWith _) (by decide +kernel) hbroken.1 hbroken.2

end ResponseCache

end ActionTree
