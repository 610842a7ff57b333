import ActionTree.Proofs.Files
import ActionTree.Proofs.JsonText
import ActionTree.Proofs.Utf8
import ActionTree.Response.Cache

/-!
# ActionTree.Proofs.CacheEntry

A stored response is read back from its entry.

1. the head of an entry is one line of JSON, so the first line feed divides it from the
   body, and head and body are read back (`read?_write`);
2. different ids have entries of different names (`entryName_injective`);
3. where writes succeed, a folder has what is stored into it (`entries_store`), and they
   succeed at every plain path where a folder can be made (`writable_of_plain`).
-/

namespace ActionTree

open Text Json

/-! ## The text of an entry -/

namespace StoredResponse

theorem cutLine_append {line : List UInt8} (hline : 0x0A ∉ line) (body : List UInt8) :
    cutLine (line ++ 0x0A :: body) = some (line, body) := by
  induction line with
  | nil => rfl
  | cons b line ih =>
    rw [List.mem_cons, not_or] at hline
    rw [List.cons_append, cutLine, if_neg (Ne.symm hline.1), ih hline.2, Option.map_some]

theorem textsOf_map_text (ss : List String) : textsOf (ss.map Value.text) = ss := by
  rw [textsOf, List.filterMap_map]
  exact List.filterMap_some

/-- The characters of the head of an entry behind its opening brace. -/
def headFields (r : StoredResponse) : List Char :=
  '"' :: writeChars "headers".toList
    (':' :: '[' :: writeItems (r.headers.map Value.text)
      (',' :: '"' :: writeChars "compress".toList
        (':' :: Json.write (.boolean r.compress) ['}'])))

theorem write_head (r : StoredResponse) :
    Json.write (.record r.head) [] = '{' :: r.headFields := by
  rw [head]
  rfl

/-- The head of an entry is one line. -/
theorem newline_not_mem_head (r : StoredResponse) :
    '\n' ∉ Json.write (.record r.head) [] := by
  have hcompress : '\n' ∉ Json.write (.boolean r.compress) ['}'] := by
    cases r.compress <;> decide
  rw [write_head]
  refine List.not_mem_cons_of_ne_of_not_mem (by decide) (newline_not_mem_writeText ?_ "headers")
  refine List.not_mem_cons_of_ne_of_not_mem (by decide) ?_
  refine List.not_mem_cons_of_ne_of_not_mem (by decide) (newline_not_mem_writeItems ?_ _)
  refine List.not_mem_cons_of_ne_of_not_mem (by decide) (newline_not_mem_writeText ?_ "compress")
  exact List.not_mem_cons_of_ne_of_not_mem (by decide) hcompress

theorem readKind_headers (ss : List String) (rest : List Char) :
    readKind .texts ('[' :: writeItems (ss.map Value.text) rest) =
      .ok (.list (ss.map Value.text), rest) := by
  have hitems : readItems (readPlain (.text "a string")) (writeItems (ss.map Value.text) rest) =
      .ok (ss.map Value.text, rest) := by
    refine readItems_writeItems rest fun v hv => ?_
    obtain ⟨s, -, rfl⟩ := List.mem_map.mp hv
    exact readBack_text _ s
  rw [readKind, skip_cons (by decide)]
  simp only [hitems]

theorem readFields_headFields (r : StoredResponse) (fuel : Nat) :
    schema.readFields (fuel + 3) true [] r.headFields =
      .ok ([("headers", .list (r.headers.map Value.text)), ("compress", .boolean r.compress)],
        ['}']) := by
  have hcompress : readKind .flag (Json.write (.boolean r.compress) ['}']) =
      .ok (.boolean r.compress, ['}']) := by
    cases r.compress <;> rfl
  rw [headFields, readFields_field rfl rfl rfl rfl (readKind_headers _ _),
    readFields_field rfl rfl rfl rfl hcompress]
  rfl

/-- The fields of an entry are read back from its head. -/
theorem read_head (r : StoredResponse) :
    schema.read (Json.write (.record r.head) []) =
      .ok [.list (r.headers.map Value.text), .boolean r.compress] := by
  obtain ⟨fuel, hfuel⟩ : ∃ fuel, r.headFields.length + 1 = fuel + 3 := ⟨_, rfl⟩
  rw [write_head, Schema.read, Schema.readFrom, skip_cons (by decide)]
  simp only [hfuel, readFields_headFields]
  rfl

/-- An entry is read back. -/
theorem read?_write (r : StoredResponse) : read? r.write = some r := by
  have hline : 0x0A ∉ encode (compact (.record r.head)) := by
    intro hmem
    have hchar := mem_of_mem_encode hmem (by decide)
    rw [compact, String.toList_ofList] at hchar
    exact newline_not_mem_head r hchar
  have hread : readBytes schema.read (encode (compact (.record r.head))) =
      .ok [.list (r.headers.map Value.text), .boolean r.compress] := by
    rw [readBytes_encode, compact, String.toList_ofList, read_head]
    rfl
  rw [write, read?, cutLine_append hline]
  simp only [hread, textsOf_map_text]

end StoredResponse

/-! ## The name of an entry -/

namespace ResponseCache

theorem hexDigit_injOn {m n : Nat} (hm : m < 16) (hn : n < 16) (h : hexDigit m = hexDigit n) :
    m = n := by
  have hvalue := hexValue?_hexDigit hm
  rw [h, hexValue?_hexDigit hn, Option.some.injEq] at hvalue
  exact hvalue.symm

theorem hexByte_inj {a b : UInt8} (h : hexByte a = hexByte b) : a = b := by
  have ha : a.toNat < 256 := a.toNat_lt
  have hb : b.toNat < 256 := b.toNat_lt
  simp only [hexByte, List.cons.injEq, and_true] at h
  have hhigh := hexDigit_injOn (by omega) (by omega) h.1
  have hlow := hexDigit_injOn (by omega) (by omega) h.2
  exact UInt8.toNat_inj.mp (by omega)

theorem flatMap_hexByte_inj {as bs : List UInt8}
    (h : as.flatMap hexByte = bs.flatMap hexByte) : as = bs := by
  induction as generalizing bs with
  | nil =>
    cases bs with
    | nil => rfl
    | cons b bs => simp [hexByte] at h
  | cons a as ih =>
    cases bs with
    | nil => simp [hexByte] at h
    | cons b bs =>
      rw [List.flatMap_cons, List.flatMap_cons] at h
      obtain ⟨hbyte, hmore⟩ := List.append_inj h rfl
      rw [hexByte_inj hbyte, ih hmore]

/-- Different ids have entries of different names. -/
theorem entryName_injective {id id' : String} (h : entryName id = entryName id') : id = id' := by
  have hdigits := congrArg String.toList h
  simp only [entryName, String.toList_append, String.toList_ofList] at hdigits
  exact encode_injective (flatMap_hexByte_inj (List.append_cancel_right hdigits))

/-! ## Entries on a disk -/

/-- A folder can be made at a path, which leaves what is there alone, and what is put into
it is found there. -/
def Writable (d : Disk) (folder : String) : Prop :=
  ∃ made, d.makeFolders folder = .ok made ∧
    entries made folder = entries d folder ∧
    ∀ es, ∃ after, made.putFolder folder es = some after ∧ entries after folder = es

theorem entries_of_plain (d : Disk) {folder : String}
    (hcheck : checkPath folder = .ok ()) (hplain : Folder.Plain (pathNames folder)) :
    entries d folder = d.top.entriesAt (pathNames folder) := by
  unfold entries Folder.entriesAt Disk.find
  rw [d.names_of_plain hcheck hplain]
  simp only [bind, Except.bind]
  rcases d.top.find (pathNames folder) with e | ⟨bytes, stamp⟩ | es
  · rfl
  · dsimp only
    by_cases hfolder : namesFolder folder = true
    · rw [if_pos hfolder]
    · rw [if_neg hfolder]
      rfl
  · rfl

/-- At a path without `.` and `..` writes succeed if the folder can be made. -/
theorem writable_of_plain {d made : Disk} {folder : String}
    (hplain : Folder.Plain (pathNames folder)) (h : d.makeFolders folder = .ok made) :
    Writable d folder := by
  obtain ⟨hcheck, top, hmade, rfl⟩ := Disk.makeFolders_of_plain hplain h
  have hfind := Folder.find_makeFolders hmade
  refine ⟨_, h, ?_, fun es => ?_⟩
  · rw [entries_of_plain _ hcheck hplain, entries_of_plain _ hcheck hplain]
    exact Folder.entriesAt_of_find hfind
  · obtain ⟨after, hafter, hnew⟩ := Disk.find_putFolder { d with top := top } hcheck hplain hfind es
    exact ⟨after, hafter, by rw [entries, hnew]⟩

theorem entries_store {d : Disk} {folder : String} (hd : Writable d folder)
    (id : String) (r : StoredResponse) :
    ∃ tick, entries (store d folder id r) folder =
      Folder.set (entries d folder) (entryName id) (.file r.write (.written tick)) := by
  obtain ⟨made, hmade, hsame, hput⟩ := hd
  obtain ⟨after, hafter, hentries⟩ := hput
    (Folder.set (entries made folder) (entryName id) (.file r.write (.written made.tick)))
  refine ⟨made.tick, ?_⟩
  simp only [store, hmade, hafter, Option.getD_some]
  rw [hentries, hsame]

end ResponseCache

end ActionTree
