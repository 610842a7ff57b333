import ActionTree.Program.Source
import ActionTree.Proofs.Confinement

/-!
# ActionTree.Proofs.Listing

Which documents the listed ids of a folder stand for.

1. the names in a folder are ordinary and no two of its entries share one (`Folder.Sound`), so
   names lead to a file exactly if it is among the entries on the way
   (`Folder.Sound.find_eq_file`);
2. the listing takes every document once and gives its id (`idsInFolder_eq`,
   `Folder.mem_documentsIn`, `Folder.nodup_documentsIn`);
3. an id keeps the folders of its document, and its stem unless that is a dot
   (`DocumentPlace.Ordinary.pieces_id`); so all ids but those of the stems `.` and `..` are
   those of one document (`DocumentPlace.Ordinary.id_eq_iff`);
4. the path of an id leads back to its document, unless the stem is one of these two or itself
   ends like a document (`DocumentPlace.Ordinary.documentPath?_id`), and where it does the
   document is what is loaded under the id (`findDocument_id`).
-/

namespace ActionTree

open Text

/-! ## Sound folders -/

namespace Folder

/-- A folder as disks hold them: its names are ordinary and not too long, no two of its entries
have the same one, and the folders in it are sound. -/
inductive Sound : Folder → Prop where
  | intro {es : Folder} (names : ∀ name e, (name, e) ∈ es → IsName name ∧ size name ≤ nameLimit)
      (distinct : (es.map Prod.fst).Nodup) (below : ∀ name g, (name, .folder g) ∈ es → Sound g) :
      Sound es

variable {es : Folder}

theorem Sound.isName (h : Sound es) {name : String} {e : Entry} (he : (name, e) ∈ es) :
    IsName name := by
  cases h with
  | intro names _ _ => exact (names name e he).1

theorem Sound.folder (h : Sound es) {name : String} {g : Folder} (hg : (name, .folder g) ∈ es) :
    Sound g := by
  cases h with
  | intro _ _ below => exact below name g hg

/-- Names lead to a file if the first of them is that of the file, or that of a folder from
which the others lead on. -/
theorem Sound.find_eq_file (h : Sound es) {name : String} {names : List String}
    {bytes : List UInt8} {stamp : Stamp} :
    es.find (name :: names) = .ok (.file bytes stamp) ↔
      (names = [] ∧ (name, .file bytes stamp) ∈ es) ∨
        ∃ g, (name, .folder g) ∈ es ∧ find g names = .ok (.file bytes stamp) := by
  cases h with
  | intro hnames hdistinct _ =>
    have hlimit {e : Entry} (he : (name, e) ∈ es) : ¬ nameLimit < size name :=
      Nat.not_lt.mpr (hnames name e he).2
    simp only [← get?_eq_some_iff hdistinct] at hlimit ⊢
    rw [find]
    rcases hget : es.get? name with _ | ⟨old, date⟩ | g
    · split <;> simp
    · rw [if_neg (hlimit hget)]
      cases names <;> simp
    · rw [if_neg (hlimit hget)]
      simp

/-- All names that lead to a file are ordinary. -/
theorem Sound.isName_of_find (h : Sound es) {names : List String} {bytes : List UInt8}
    {stamp : Stamp} (hfile : es.find names = .ok (.file bytes stamp)) :
    ∀ name ∈ names, IsName name := by
  induction names generalizing es with
  | nil => exact List.forall_mem_nil IsName
  | cons name names ih =>
    obtain ⟨rfl, he⟩ | ⟨g, hg, hmore⟩ := h.find_eq_file.mp hfile
    · exact List.forall_mem_singleton.mpr (h.isName he)
    · exact List.forall_mem_cons.mpr ⟨h.isName hg, ih (h.folder hg) hmore⟩

end Folder

/-! ## Places of documents -/

/-- Where a document is below a folder: the folders that lead to it, and its name without the
ending of documents. -/
structure DocumentPlace where
  folders : List String
  stem : String
deriving DecidableEq

namespace DocumentPlace

/-- The names that lead to a document. -/
def names (p : DocumentPlace) : List String := p.folders ++ [p.stem ++ documentEnding]

/-- The path of a document. -/
def path (p : DocumentPlace) : String := "/".intercalate p.names

/-- The id that a document is listed under. -/
def id (p : DocumentPlace) : String := idOf p.folders p.stem

/-- The place in a folder of a name. -/
def inside (name : String) (p : DocumentPlace) : DocumentPlace :=
  { p with folders := name :: p.folders }

theorem inside_injective (name : String) : Function.Injective (inside name) := by
  rintro ⟨folders, stem⟩ ⟨folders', stem'⟩ h
  simpa [inside] using h

/-- A stem of dots, which an id cannot tell from the folder above. -/
def IsDots (p : DocumentPlace) : Prop := p.stem = "." ∨ p.stem = ".."

/-- A stem that has the ending of documents itself. -/
def EndsTwice (p : DocumentPlace) : Prop := endsWith documentEnding p.stem = true

end DocumentPlace

/-- Only the name of a document has a stem, and goes on behind it with the ending. -/
theorem documentStem?_eq_some_iff {name stem : String} :
    documentStem? name = some stem ↔ stem ≠ "" ∧ name = stem ++ documentEnding := by
  have hcut {a : String} : cutLast '.' name = some (a, "xml") ↔ name = a ++ documentEnding := by
    rw [cutLast_eq_some_iff, ← String.toList_inj, String.toList_append]
    exact and_iff_right (by decide)
  unfold documentStem?
  constructor
  · intro h
    split at h
    · next a ending hname =>
      split at h
      · next hgood =>
        rw [Bool.and_eq_true, bne_iff_ne, beq_iff_eq] at hgood
        obtain ⟨hnonempty, rfl⟩ := hgood
        obtain rfl := Option.some.inj h
        exact ⟨hnonempty, hcut.mp hname⟩
      · contradiction
    · contradiction
  · rintro ⟨hnonempty, hname⟩
    rw [hcut.mpr hname]
    simp [hnonempty]

/-! ## Places listed -/

mutual

/-- The places of the documents in an entry of a name. -/
def documentsInEntry (name : String) : Entry → List DocumentPlace
  | .file _ _ =>
    match documentStem? name with
    | some stem => [⟨[], stem⟩]
    | none => []
  | .folder es => (documentsIn es).map (.inside name)
termination_by structural e => e

/-- The places of the documents in a folder. -/
def documentsIn : List (String × Entry) → List DocumentPlace
  | [] => []
  | (name, e) :: es => documentsInEntry name e ++ documentsIn es
termination_by structural es => es

end

mutual

theorem idsInEntry_eq (folders : List String) (name : String) : (e : Entry) →
    idsInEntry folders name e =
      (documentsInEntry name e).map fun p => idOf (folders ++ p.folders) p.stem
  | .file _ _ => by
    rw [idsInEntry, documentsInEntry]
    cases documentStem? name <;> simp
  | .folder es => by
    rw [idsInEntry, documentsInEntry, idsInFolder_eq, List.map_map]
    refine List.map_congr_left fun p _ => ?_
    simp [DocumentPlace.inside]
termination_by structural e => e

/-- The ids in a folder are those of its documents. -/
theorem idsInFolder_eq (folders : List String) : (es : List (String × Entry)) →
    idsInFolder folders es = (documentsIn es).map fun p => idOf (folders ++ p.folders) p.stem
  | [] => rfl
  | (name, e) :: es => by
    rw [idsInFolder, documentsIn, List.map_append, idsInEntry_eq, idsInFolder_eq]
termination_by structural es => es

end

variable {name : String} {e : Entry}

theorem mem_documentsInEntry_nil {stem : String} :
    ⟨[], stem⟩ ∈ documentsInEntry name e ↔
      stem ≠ "" ∧ name = stem ++ documentEnding ∧ ∃ bytes stamp, e = .file bytes stamp := by
  cases e with
  | file bytes stamp =>
    rw [documentsInEntry, ← and_assoc, ← documentStem?_eq_some_iff]
    cases documentStem? name <;> simp [eq_comm]
  | folder es => simp [documentsInEntry, DocumentPlace.inside]

theorem mem_documentsInEntry_cons {folder : String} {folders : List String} {stem : String} :
    ⟨folder :: folders, stem⟩ ∈ documentsInEntry name e ↔
      name = folder ∧ ∃ es, e = .folder es ∧ ⟨folders, stem⟩ ∈ documentsIn es := by
  cases e with
  | file bytes stamp =>
    rw [documentsInEntry]
    cases documentStem? name <;> simp
  | folder es =>
    rw [documentsInEntry, List.mem_map]
    constructor
    · rintro ⟨⟨folders', stem'⟩, hq, heq⟩
      obtain ⟨⟨rfl, rfl⟩, rfl⟩ : (name = folder ∧ folders' = folders) ∧ stem' = stem := by
        simpa [DocumentPlace.inside] using heq
      exact ⟨rfl, es, rfl, hq⟩
    · rintro ⟨rfl, _, hes, hq⟩
      cases hes
      exact ⟨_, hq, rfl⟩

/-- The first name that leads to a document is that of the entry which it is in. -/
theorem head?_names {p : DocumentPlace} (h : p ∈ documentsInEntry name e) :
    p.names.head? = some name := by
  obtain ⟨folders, stem⟩ := p
  cases folders with
  | nil =>
    obtain ⟨-, rfl, -⟩ := mem_documentsInEntry_nil.mp h
    rfl
  | cons folder folders =>
    obtain ⟨rfl, -⟩ := mem_documentsInEntry_cons.mp h
    rfl

theorem documentsIn_eq_flatMap (es : List (String × Entry)) :
    documentsIn es = es.flatMap fun entry => documentsInEntry entry.1 entry.2 := by
  induction es with
  | nil => rfl
  | cons entry es ih => rw [documentsIn, ih, List.flatMap_cons]

theorem mem_documentsIn_iff {es : List (String × Entry)} {p : DocumentPlace} :
    p ∈ documentsIn es ↔ ∃ name e, (name, e) ∈ es ∧ p ∈ documentsInEntry name e := by
  rw [documentsIn_eq_flatMap, List.mem_flatMap, Prod.exists]

namespace Folder

variable {es : Folder}

/-- A document of a folder: its names lead to a file, and its stem is not empty. -/
def HasDocument (es : Folder) (p : DocumentPlace) : Prop :=
  p.stem ≠ "" ∧ ∃ bytes stamp, es.find p.names = .ok (.file bytes stamp)

/-- The places listed are those of the documents. -/
theorem mem_documentsIn (h : Sound es) {p : DocumentPlace} :
    p ∈ documentsIn es ↔ es.HasDocument p := by
  obtain ⟨folders, stem⟩ := p
  -- Along the folders: each of them is one entry of the folder before it.
  induction folders generalizing es with
  | nil =>
    rw [mem_documentsIn_iff]
    simp only [mem_documentsInEntry_nil, HasDocument, DocumentPlace.names, List.nil_append,
      h.find_eq_file]
    constructor
    · rintro ⟨_, _, he, hstem, rfl, bytes, stamp, rfl⟩
      exact ⟨hstem, bytes, stamp, .inl ⟨trivial, he⟩⟩
    · rintro ⟨hstem, bytes, stamp, ⟨-, he⟩ | ⟨g, -, hfile⟩⟩
      · exact ⟨_, _, he, hstem, rfl, bytes, stamp, rfl⟩
      · cases hfile
  | cons folder folders ih =>
    rw [mem_documentsIn_iff]
    simp only [mem_documentsInEntry_cons, HasDocument, DocumentPlace.names, List.cons_append,
      h.find_eq_file]
    constructor
    · rintro ⟨_, _, hg, rfl, g, rfl, hq⟩
      obtain ⟨hstem, bytes, stamp, hfile⟩ := (ih (h.folder hg)).mp hq
      exact ⟨hstem, bytes, stamp, .inr ⟨g, hg, hfile⟩⟩
    · rintro ⟨hstem, bytes, stamp, ⟨hnil, -⟩ | ⟨g, hg, hfile⟩⟩
      · simp at hnil
      · exact ⟨_, _, hg, rfl, g, rfl, (ih (h.folder hg)).mpr ⟨hstem, bytes, stamp, hfile⟩⟩

/-- No place is listed twice. -/
theorem nodup_documentsIn (h : Sound es) : (documentsIn es).Nodup := by
  induction h with
  | @intro es names distinct below ih =>
    rw [documentsIn_eq_flatMap, List.nodup_flatMap]
    constructor
    · rintro ⟨name, e⟩ he
      cases e with
      | file bytes stamp =>
        dsimp only
        rw [documentsInEntry]
        cases documentStem? name <;> simp
      | folder g =>
        dsimp only
        rw [documentsInEntry]
        exact (ih name g he).map (DocumentPlace.inside_injective name)
    · refine (List.pairwise_map.mp distinct).imp fun hne p hp hq => hne ?_
      exact Option.some.inj ((head?_names hp).symm.trans (head?_names hq))

end Folder

/-! ## Ids and paths -/

namespace DocumentPlace

variable {p q : DocumentPlace}

/-- The path of a document is its id with the ending, unless the stem is dots. -/
theorem path_eq (hdots : ¬ p.IsDots) : p.path = p.id ++ documentEnding := by
  rw [IsDots, not_or] at hdots
  rw [path, names, intercalate_append_last, id, idOf, if_neg hdots.1]

/-- A place that only ordinary names lead to. -/
structure Ordinary (p : DocumentPlace) : Prop where
  stem : p.stem ≠ ""
  names : ∀ name ∈ p.names, IsName name

namespace Ordinary

theorem folders (h : p.Ordinary) : ∀ name ∈ p.folders, IsName name := fun name hname =>
  h.names name (List.mem_append_left _ hname)

theorem noSlash (h : p.Ordinary) : '/' ∉ p.stem.toList := by
  have hname := (h.names (p.stem ++ documentEnding) (by simp [DocumentPlace.names])).noSlash
  rw [String.toList_append, List.mem_append, not_or] at hname
  exact hname.1

/-- An id keeps the folders of a document, and its stem unless that is a dot. -/
theorem pieces_id (h : p.Ordinary) :
    pieces '/' p.id = p.folders ++ [if p.stem = "." then ".." else p.stem] := by
  refine pieces_intercalate (by simp) fun name hname => ?_
  rcases List.mem_append.mp hname with hname | hname
  · exact (h.folders name hname).noSlash
  · obtain rfl := List.mem_singleton.mp hname
    split
    · decide
    · exact h.noSlash

theorem pieces_path (h : p.Ordinary) : pieces '/' p.path = p.names :=
  pieces_intercalate (by simp [DocumentPlace.names]) fun name hname => (h.names name hname).noSlash

/-- Documents share an id only if their stems are dots. -/
theorem id_eq_iff (hp : p.Ordinary) (hq : q.Ordinary) :
    p.id = q.id ↔ p = q ∨ p.folders = q.folders ∧ p.IsDots ∧ q.IsDots := by
  obtain ⟨folders, stem⟩ := p
  obtain ⟨folders', stem'⟩ := q
  constructor
  · intro heq
    have hpieces := congrArg (pieces '/') heq
    rw [hp.pieces_id, hq.pieces_id] at hpieces
    obtain ⟨rfl, hlast⟩ := List.append_inj' hpieces rfl
    simp only [mk.injEq, true_and, IsDots]
    have hstem := (List.cons.inj hlast).1
    -- Either stem may be a dot, and then the other one is that or the two dots.
    grind
  · rintro (heq | ⟨rfl, hdots⟩)
    · rw [heq]
    · have hlast {s : String} (hs : s = "." ∨ s = "..") : (if s = "." then ".." else s) = ".." := by
        rcases hs with rfl | rfl <;> rfl
      simp only [DocumentPlace.id, idOf, hlast hdots.1, hlast hdots.2]

/-- An id has no document if its last piece leads back. -/
theorem documentPath?_id_eq_none (h : p.Ordinary) : documentPath? p.id = none ↔ p.IsDots := by
  have hfolders {s : String} (hs : ¬ IsName s) : s ∉ p.folders := fun hmem =>
    hs (h.folders s hmem)
  have habove : ¬ IsName ".." := fun hname => hname.notAbove rfl
  have hempty : ¬ IsName "" := fun hname => hname.nonempty rfl
  rw [documentPath?_eq_none, h.pieces_id, List.mem_append, List.mem_append, List.mem_singleton,
    List.mem_singleton, or_iff_right (hfolders habove), or_iff_right (hfolders hempty), IsDots]
  have := h.stem
  grind

/-- An id ends like a document exactly if the stem does. -/
theorem endsWith_id (h : p.Ordinary) (hdots : ¬ p.IsDots) :
    endsWith documentEnding p.id = true ↔ p.EndsTwice := by
  rw [IsDots, not_or] at hdots
  have hpieces := h.pieces_id
  rw [if_neg hdots.1] at hpieces
  rw [EndsTwice, endsWith_iff, endsWith_iff]
  constructor
  · rintro ⟨start, hid⟩
    have hslash : '/' ∉ documentEnding.toList := by decide
    obtain ⟨front, last, -, hlast⟩ := pieces_append start hslash
    rw [hid, hlast] at hpieces
    obtain ⟨-, hstem⟩ := List.append_inj' hpieces rfl
    exact ⟨last, (List.cons.inj hstem).1.symm⟩
  · rintro ⟨start, hstem⟩
    refine ⟨"/".intercalate (p.folders ++ [start]), ?_⟩
    rw [DocumentPlace.id, idOf, if_neg hdots.1, hstem, intercalate_append_last]

/-- The path of an id is that of its document unless the stem is dots or ends like a document
itself. -/
theorem documentPath?_id (h : p.Ordinary) :
    documentPath? p.id = some p.path ↔ ¬ p.IsDots ∧ ¬ p.EndsTwice := by
  by_cases hdots : p.IsDots
  · simp [h.documentPath?_id_eq_none.mpr hdots, hdots]
  · rw [documentPath?_of_ne_none (mt h.documentPath?_id_eq_none.mp hdots), path_eq hdots,
      Option.some_inj, ← h.endsWith_id hdots, and_iff_right hdots]
    split
    · next hends =>
      have hlonger : p.id ≠ p.id ++ documentEnding := fun heq =>
        absurd (congrArg String.length heq) (by simp [documentEnding])
      exact iff_of_false hlonger (not_not_intro hends)
    · next hends => exact iff_of_true rfl hends

end Ordinary

end DocumentPlace

/-! ## Listed documents -/

theorem Folder.HasDocument.ordinary {es : Folder} {p : DocumentPlace} (h : es.Sound)
    (hp : es.HasDocument p) : p.Ordinary := by
  obtain ⟨hstem, bytes, stamp, hfile⟩ := hp
  exact ⟨hstem, h.isName_of_find hfile⟩

/-- The listing is the ids of some places, in order. -/
theorem listPrograms_of_find {d : Disk} {root : String} {es : Folder}
    (h : d.find root = .ok (.folder es)) :
    ∃ ids, listPrograms d root = .ok ids ∧ ids.Pairwise (· ≤ ·) ∧
      ids.Perm ((documentsIn es).map DocumentPlace.id) := by
  refine ⟨_, by rw [listPrograms, h], ?_, ?_⟩
  · refine (List.pairwise_mergeSort ?_ ?_ _).imp of_decide_eq_true
    · intro a b c
      simpa using String.le_trans
    · intro a b
      simpa using String.le_total a b
  · refine (List.mergeSort_perm _ _).trans (List.Perm.of_eq ?_)
    rw [idsInFolder_eq]
    rfl

/-- What is found under an id whose path is that of a document is the document. -/
theorem findDocument_id {d : Disk} {root : String} {es : Folder} {p : DocumentPlace}
    (hroot : d.find root = .ok (.folder es)) (hp : p.Ordinary)
    (hpath : documentPath? p.id = some p.path)
    (hshort : checkPath (joinPath root p.path) = .ok ()) :
    ∀ e, es.find p.names = .ok e → findDocument d root p.id = .ok e := by
  intro e hfind
  have hnames : documentNames p.path = p.names := by
    rw [documentNames, hp.pieces_path]
    exact List.filter_eq_self.mpr fun name hname => bne_iff_ne.mpr (hp.names name hname).notSelf
  have hfound : d.find (joinPath root p.path) = .ok e := by
    rw [d.find_document (documentPath?_isDocumentPath hpath), hshort, hroot, ← hfind, ← hnames]
    rfl
  rw [findDocument, hpath]
  dsimp only
  rw [hfound]

/-- A listing has every document once, under an id that leads back to it exactly if its stem is
no dots and does not end like a document again; and no two documents share an id except for two
stems of dots in one folder. -/
theorem listed_documents_found_iff {d : Disk} {root : String} {es : Folder}
    (hroot : d.find root = .ok (.folder es)) (hes : es.Sound) :
    ∃ (ids : List String) (places : List DocumentPlace),
      listPrograms d root = .ok ids ∧ ids.Pairwise (· ≤ ·) ∧
      places.Nodup ∧ (∀ p, p ∈ places ↔ es.HasDocument p) ∧
      ids.Perm (places.map DocumentPlace.id) ∧
      (∀ p ∈ places, documentPath? p.id = some p.path ↔ ¬ p.IsDots ∧ ¬ p.EndsTwice) ∧
      (∀ p ∈ places, documentPath? p.id = some p.path →
        checkPath (joinPath root p.path) = .ok () →
          ∀ e, es.find p.names = .ok e → findDocument d root p.id = .ok e) ∧
      ∀ p ∈ places, ∀ q ∈ places,
        p.id = q.id ↔ p = q ∨ p.folders = q.folders ∧ p.IsDots ∧ q.IsDots := by
  obtain ⟨ids, hids, hsorted, hperm⟩ := listPrograms_of_find hroot
  have hordinary {p : DocumentPlace} (hp : p ∈ documentsIn es) : p.Ordinary :=
    ((Folder.mem_documentsIn hes).mp hp).ordinary hes
  refine ⟨ids, documentsIn es, hids, hsorted, Folder.nodup_documentsIn hes,
    fun p => Folder.mem_documentsIn hes, hperm, ?_, ?_, ?_⟩
  · exact fun p hp => (hordinary hp).documentPath?_id
  · exact fun p hp hpath hshort => findDocument_id hroot (hordinary hp) hpath hshort
  · exact fun p hp q hq => DocumentPlace.Ordinary.id_eq_iff (hordinary hp) (hordinary hq)

/-- A folder with a document in a folder of its own, one that ends like a document twice, and
two whose stems are dots. -/
def oddNames : Folder :=
  [("shop", .folder [("home.xml", .file [] (.written 0))]),
    ("a.xml.xml", .file [] (.written 1)), ("..xml", .file [] (.written 2)),
    ("...xml", .file [] (.written 3))]

/-- The disk with this folder. -/
def oddDisk : Disk := { top := [("programs", .folder oddNames)], tick := 4 }

theorem oddNames_sound : oddNames.Sound := by
  have hhome : Folder.Sound [("home.xml", .file [] (.written 0))] := by
    refine .intro ?_ (by decide) (by simp)
    intro name e he
    obtain ⟨rfl, -⟩ := Prod.mk.inj (List.mem_singleton.mp he)
    exact ⟨⟨by decide, by decide, by decide, by decide⟩, by decide⟩
  refine .intro ?_ (by decide) ?_
  · intro name e he
    simp only [oddNames, List.mem_cons, Prod.mk.injEq, List.not_mem_nil, or_false] at he
    rcases he with ⟨rfl, -⟩ | ⟨rfl, -⟩ | ⟨rfl, -⟩ | ⟨rfl, -⟩ <;>
      exact ⟨⟨by decide, by decide, by decide, by decide⟩, by decide⟩
  · intro name g hg
    simp only [oddNames, List.mem_cons, Prod.mk.injEq, List.not_mem_nil, or_false,
      Entry.folder.injEq, reduceCtorEq, and_false] at hg
    rw [hg.2]
    exact hhome

theorem oddDisk_find : oddDisk.find "programs" = .ok (.folder oddNames) := rfl

theorem listed_documents_found_iff_oddNames :
    (oddDisk.find "programs" = .ok (.folder oddNames) ∧ oddNames.Sound) ∧
      ∃ ids, listPrograms oddDisk "programs" = .ok ids ∧ "shop/home" ∈ ids ∧ "a.xml" ∈ ids ∧
        documentPath? "shop/home" = some "shop/home.xml" ∧
        findDocument oddDisk "programs" "shop/home" = .ok (.file [] (.written 0)) ∧
        documentPath? "a.xml" ≠ some "a.xml.xml" := by
  obtain ⟨ids, places, hids, -, -, hplaces, hperm, hpath, hfound, -⟩ :=
    listed_documents_found_iff oddDisk_find oddNames_sound
  have hhome : ⟨["shop"], "home"⟩ ∈ places := (hplaces _).mpr ⟨by decide, _, _, rfl⟩
  have htwice : ⟨[], "a.xml"⟩ ∈ places := (hplaces _).mpr ⟨by decide, _, _, rfl⟩
  have hhomePath := (hpath _ hhome).mpr ⟨by simp [DocumentPlace.IsDots], Bool.false_ne_true⟩
  refine ⟨⟨oddDisk_find, oddNames_sound⟩, ids, hids, ?_, ?_, hhomePath, ?_, ?_⟩
  · exact hperm.mem_iff.mpr (List.mem_map_of_mem hhome)
  · exact hperm.mem_iff.mpr (List.mem_map_of_mem htwice)
  · exact hfound _ hhome hhomePath rfl _ rfl
  · exact fun hback => ((hpath _ htwice).mp hback).2 rfl

/-- Of these documents one is listed under the id of another path, and two under one id, which
has no path. -/
theorem listed_ids_lead_astray :
    (∃ ids, listPrograms oddDisk "programs" = .ok ids ∧
      ids.Perm ["shop/home", "a.xml", "..", ".."]) ∧
      (oddNames.HasDocument ⟨[], "a.xml"⟩ ∧ idOf [] "a.xml" = "a.xml" ∧
        documentPath? "a.xml" = some "a.xml") ∧
      oddNames.HasDocument ⟨[], "."⟩ ∧ oddNames.HasDocument ⟨[], ".."⟩ ∧
      idOf [] "." = ".." ∧ idOf [] ".." = ".." ∧ documentPath? ".." = none := by
  obtain ⟨ids, hids, -, hperm⟩ := listPrograms_of_find oddDisk_find
  exact ⟨⟨ids, hids, hperm⟩, ⟨⟨by decide, _, _, rfl⟩, rfl, rfl⟩, ⟨by decide, _, _, rfl⟩,
    ⟨by decide, _, _, rfl⟩, rfl, rfl, rfl⟩

end ActionTree
