import ActionTree.Proofs.Batch
import ActionTree.Proofs.Files
import ActionTree.Proofs.Segments

/-!
# ActionTree.Proofs.Confinement

Programs are read from below the program folder and from nowhere else.

1. a path is *straight* without dots and ways back (`straightPath`), and a disk follows it in
   no other way (`Disk.names_eq_straightPath`); the path of a document goes on from the root
   by ordinary names (`IsDocumentPath.straightPath_joinPath`);
2. so a disk finds a document in what it finds at the program folder
   (`Disk.find_document`), and disks that agree there hold the same programs
   (`folderSource_congr`);
3. a run keeps no program but those that were read from there (`KeptOrBelow`), and besides
   them nothing on the disk but the stored responses makes a difference to it
   (`Engine.SeesAlike.run_onDisk`).
-/

namespace ActionTree

open Text

/-! ## Straight paths -/

/-- The names that are left when `.` is dropped and every `..` leads above the name before
it; those in `seen` are straight already, and the last of them comes first. -/
def straight (seen : List String) : List String → List String
  | [] => seen.reverse
  | name :: names =>
    if name = "." then straight seen names
    else if name = ".." then straight (above seen) names
    else straight (name :: seen) names

/-- A path without dots and ways back. -/
def straightPath (path : String) : List String := straight [] (pathNames path)

/-- Names that lead to a document below a folder: ordinary ones, the last of which has the
ending of documents. -/
structure LeadsBelow (names : List String) : Prop where
  ordinary : ∀ name ∈ names, IsName name
  document : ∃ folders stem, names = folders ++ [stem ++ documentEnding]

theorem LeadsBelow.ne_nil {names : List String} (h : LeadsBelow names) : names ≠ [] := by
  obtain ⟨folders, stem, rfl⟩ := h.document
  simp

/-- The straight names are those that a disk follows. -/
theorem Folder.follow_eq_straight {f : Folder} {seen names found : List String}
    (h : f.follow seen names = .ok found) : found = straight seen names := by
  induction names generalizing seen with
  | nil => exact (Except.ok.inj h).symm
  | cons name names ih =>
    unfold follow at h
    unfold straight
    split at h
    · next hdots =>
      split at h
      · contradiction
      · have hnext := ih h
        split at hnext
        · next hdot => rw [if_pos hdot, hnext]
        · next hdot =>
          have habove : name = ".." := by simpa [hdot] using hdots
          rw [if_neg hdot, if_pos habove, hnext]
    · next hdots =>
      rw [Bool.or_eq_true, decide_eq_true_iff, decide_eq_true_iff, not_or] at hdots
      rw [if_neg hdots.1, if_neg hdots.2, ih h]

theorem straight_append (seen xs ys : List String) :
    straight seen (xs ++ ys) = straight (straight seen xs).reverse ys := by
  induction xs generalizing seen with
  | nil => rw [List.nil_append, straight, List.reverse_reverse]
  | cons x xs ih =>
    rw [List.cons_append, straight, straight]
    split
    · exact ih seen
    · split
      · exact ih (above seen)
      · exact ih (x :: seen)

/-- Without a way back only the dots are dropped. -/
theorem straight_of_no_way_back {names : List String} (hnames : ".." ∉ names)
    (seen : List String) :
    straight seen names = seen.reverse ++ names.filter fun name => name != "." := by
  induction names generalizing seen with
  | nil => simp [straight]
  | cons name names ih =>
    rw [List.mem_cons, not_or] at hnames
    rw [straight, if_neg (Ne.symm hnames.1)]
    split
    · next hdot =>
      rw [ih hnames.2, List.filter_cons_of_neg (by simp [hdot])]
    · next hdot =>
      rw [ih hnames.2, List.filter_cons_of_pos (by simpa using hdot), List.reverse_cons,
        List.append_assoc]
      rfl

/-! ## Paths of documents -/

/-- The names that the path of a document leads through, without dots. -/
def documentNames (path : String) : List String :=
  (pieces '/' path).filter fun name => name != "."

theorem IsDocumentPath.leadsBelow {path : String} (h : IsDocumentPath path) :
    LeadsBelow (documentNames path) := by
  constructor
  · intro name hname
    obtain ⟨hpiece, hdot⟩ := List.mem_filter.mp hname
    refine ⟨?_, by simpa using hdot, ?_, not_mem_of_mem_pieces hpiece⟩
    · rintro rfl
      exact h.noEmpty hpiece
    · rintro rfl
      exact h.noWayBack hpiece
  · obtain ⟨front, last, hpieces⟩ := h.document
    have hlast := append_documentEnding_ne last (s := ".") (by decide)
    exact ⟨front.filter fun name => name != ".", last, by simp [documentNames, hpieces, hlast]⟩

/-- The path of a document does not start at the very top. -/
theorem IsDocumentPath.not_rooted {path : String} (h : IsDocumentPath path) :
    startsWith "/" path = false := by
  by_contra hrooted
  rw [Bool.not_eq_false, startsWith, Option.isSome_iff_exists] at hrooted
  obtain ⟨rest, hrest⟩ := hrooted
  have hpath : path = "" ++ "/" ++ String.ofList rest := by
    rw [← String.toList_inj, eq_append_of_stripStartChars hrest]
    simp
  refine h.noEmpty ?_
  rw [hpath, pieces_slash]
  exact List.mem_append_left _ List.mem_cons_self

theorem startsWith_slash_append {root : String} (hroot : root ≠ "") (rest : String) :
    startsWith "/" (root ++ rest) = startsWith "/" root := by
  have hstart : "/".toList = ['/'] := rfl
  rw [startsWith, startsWith, String.toList_append, hstart]
  cases hcs : root.toList with
  | nil => exact absurd (String.toList_inj.mp hcs) hroot
  | cons c cs =>
    rw [List.cons_append, stripStartChars, stripStartChars, stripStartChars, stripStartChars]
    split <;> rfl

theorem IsDocumentPath.filter_pieces {path : String} (h : IsDocumentPath path) :
    (pieces '/' path).filter (fun name => name != "") = pieces '/' path := by
  refine List.filter_eq_self.mpr fun name hname => ?_
  rw [bne_iff_ne]
  rintro rfl
  exact h.noEmpty hname

/-- The path of a document goes on from the names of the root. -/
theorem IsDocumentPath.pathNames_joinPath {path : String} (h : IsDocumentPath path)
    (root : String) : pathNames (joinPath root path) = pathNames root ++ pieces '/' path := by
  rw [joinPath, if_neg (by simp [h.not_rooted])]
  by_cases hroot : root = ""
  · subst hroot
    have hempty : pathNames "" = [] := by decide
    rw [hempty, if_pos (by simp), String.empty_append, pathNames, h.not_rooted,
      h.filter_pieces]
    rfl
  · have hbeq : (root == "") = false := by simpa using hroot
    rw [hbeq, Bool.false_or]
    split
    · next hfolder =>
      obtain ⟨stem, rfl⟩ := endsWith_iff.mp hfolder
      have hclosed : pieces '/' (stem ++ "/") = pieces '/' stem ++ [""] := by
        have hsplit := pieces_slash stem ""
        rwa [String.append_empty] at hsplit
      simp only [pathNames, startsWith_slash_append hroot, pieces_slash, hclosed,
        List.filter_append, h.filter_pieces]
      split <;> simp
    · simp only [pathNames, String.append_assoc, startsWith_slash_append hroot]
      rw [← String.append_assoc, pieces_slash, List.filter_append, h.filter_pieces]
      split <;> simp

/-- A document is strictly below its root: the straight path to it goes on from there by the
names of the document. -/
theorem IsDocumentPath.straightPath_joinPath {path : String} (h : IsDocumentPath path)
    (root : String) :
    straightPath (joinPath root path) = straightPath root ++ documentNames path := by
  rw [straightPath, h.pathNames_joinPath, straight_append,
    straight_of_no_way_back h.noWayBack, List.reverse_reverse]
  rfl

/-! ## Documents on a disk -/

/-- What names lead to from an entry on. -/
def Entry.inside (names : List String) : Entry → Except FileError Entry
  | .file _ _ => .error .notDirectory
  | .folder es => Folder.find es names

/-- What is found at a path that leads to an entry. -/
def Entry.foundAt (path : String) : Entry → Except FileError Entry
  | .file bytes stamp =>
    if namesFolder path then .error .notDirectory else .ok (.file bytes stamp)
  | .folder es => .ok (.folder es)

/-- A path matters to what is found at it, but not to what is found in that. -/
theorem Entry.foundAt_bind_inside (path : String) (names : List String) (e : Entry) :
    (foundAt path e).bind (inside names) = inside names e := by
  cases e with
  | folder es => rfl
  | file bytes stamp =>
    rw [foundAt]
    split <;> rfl

namespace Folder

variable {f : Folder}

theorem follow_append (f : Folder) (seen xs ys : List String) :
    f.follow seen (xs ++ ys) = (f.follow seen xs).bind fun found => f.follow found.reverse ys := by
  induction xs generalizing seen with
  | nil =>
    rw [List.nil_append, follow, Except.bind, List.reverse_reverse]
  | cons x xs ih =>
    rw [List.cons_append, follow, follow]
    split
    · split
      · rfl
      · exact ih _
    · exact ih (x :: seen)

/-- What is wrong with the first names is wrong with all of them, and what is behind a file
is nowhere. -/
theorem find_append (f : Folder) (xs : List String) {ys : List String} (hys : ys ≠ []) :
    f.find (xs ++ ys) = (f.find xs).bind (Entry.inside ys) := by
  induction xs generalizing f with
  | nil => rfl
  | cons x xs ih =>
    rw [List.cons_append, find, find]
    split
    · rfl
    · rcases f.get? x with _ | ⟨bytes, stamp⟩ | g
      · rfl
      · have hmore : (xs ++ ys).isEmpty = false := by simp [hys]
        rw [hmore]
        cases xs <;> rfl
      · exact ih g

/-- Names that do not lead to a folder lead nowhere further. -/
theorem find_append_of_notFolder? {seen names : List String} {e : FileError}
    (h : f.notFolder? seen = some e) (hnames : names ≠ []) :
    f.find (seen.reverse ++ names) = .error e := by
  unfold notFolder? at h
  rw [find_append f seen.reverse hnames]
  split at h
  · contradiction
  · split at h
    · contradiction
    · next hfind =>
      obtain rfl := Option.some.inj h
      rw [hfind]
      rfl
    · next hfind =>
      obtain rfl := Option.some.inj h
      rw [hfind]
      rfl

/-- Dots on the way make no difference to what is found, unless the last name is one. -/
theorem follow_find (f : Folder) (seen : List String) {names : List String}
    (hback : ".." ∉ names) (hlast : names.getLast? ≠ some ".") :
    (f.follow seen names).bind f.find =
      f.find (seen.reverse ++ names.filter fun name => name != ".") := by
  induction names generalizing seen with
  | nil =>
    rw [List.filter_nil, List.append_nil]
    rfl
  | cons name names ih =>
    rw [List.mem_cons, not_or] at hback
    by_cases hdot : name = "."
    · subst hdot
      obtain ⟨next, rest, rfl⟩ : ∃ next rest, names = next :: rest := by
        cases names with
        | nil => exact absurd rfl hlast
        | cons next rest => exact ⟨next, rest, rfl⟩
      rw [List.getLast?_cons_cons] at hlast
      have hend : (next :: rest).getLast (List.cons_ne_nil next rest) ∈
          (next :: rest).filter fun name => name != "." := by
        rw [List.getLast?_eq_getLast_of_ne_nil (List.cons_ne_nil next rest)] at hlast
        exact List.mem_filter.mpr ⟨List.getLast_mem _, by simpa using hlast⟩
      have hrest := List.ne_nil_of_mem hend
      rw [follow, List.filter_cons_of_neg (by simp)]
      cases hfolder : f.notFolder? seen with
      | none => exact ih seen hback.2 hlast
      | some e => exact (find_append_of_notFolder? hfolder hrest).symm
    · have hmore : names.getLast? ≠ some "." := by
        cases names with
        | nil => simp
        | cons next rest => rwa [List.getLast?_cons_cons] at hlast
      rw [follow, if_neg (by simp [hdot, Ne.symm hback.1]), ih _ hback.2 hmore,
        List.filter_cons_of_pos (by simpa using hdot), List.reverse_cons, List.append_assoc]
      rfl

end Folder

theorem IsDocumentPath.joinPath_eq_append {path : String} (h : IsDocumentPath path)
    (folder : String) : ∃ between, joinPath folder path = folder ++ between ++ path := by
  rw [joinPath, if_neg (by simp [h.not_rooted])]
  split
  · exact ⟨"", by rw [String.append_empty]⟩
  · exact ⟨"/", rfl⟩

theorem checkPath_of_append {path more : String} (h : checkPath (path ++ more) = .ok ()) :
    checkPath path = .ok () := by
  unfold checkPath size at h ⊢
  rw [String.utf8ByteSize_append, String.toList_append] at h
  split at h
  · contradiction
  · next hnul =>
    split at h
    · contradiction
    · next hsize =>
      rw [List.contains_eq_mem, decide_eq_true_iff, List.mem_append, not_or] at hnul
      rw [if_neg (by simpa using hnul.1), if_neg (by omega)]

/-- The name of a document is not that of a folder. -/
theorem IsDocumentPath.not_namesFolder {path : String} (h : IsDocumentPath path)
    (folder : String) : namesFolder (joinPath folder path) = false := by
  obtain ⟨between, hjoined⟩ := h.joinPath_eq_append folder
  obtain ⟨stem, hstem⟩ := h.ending
  by_contra hfolder
  rw [Bool.not_eq_false, namesFolder, endsWith_iff] at hfolder
  obtain ⟨before, hbefore⟩ := hfolder
  have hslash : (before ++ "/").toList.getLast? = some '/' := by simp
  refine append_documentEnding_ne (folder ++ between ++ stem) (s := before ++ "/") ?_ ?_
  · rw [hslash]
    decide
  · rw [String.append_assoc, ← hstem, ← hjoined, hbefore]

/-- So whatever its path leads to is found at it. -/
theorem IsDocumentPath.foundAt_eq {path : String} (h : IsDocumentPath path) (folder : String) :
    Entry.foundAt (joinPath folder path) = Except.ok := by
  funext e
  cases e <;> simp [Entry.foundAt, h.not_namesFolder]

/-- The last name of a document is not a dot. -/
theorem IsDocumentPath.getLast?_ne {path : String} (h : IsDocumentPath path) :
    (pieces '/' path).getLast? ≠ some "." := by
  obtain ⟨front, last, hpieces⟩ := h.document
  have hne := append_documentEnding_ne last (s := ".") (by decide)
  simpa [hpieces] using hne

namespace Disk

/-- The names that a disk follows are those of the straight path. -/
theorem names_eq_straightPath {d : Disk} {path : String} {found : List String}
    (h : d.names path = .ok found) : found = straightPath path := by
  rw [names] at h
  cases hcheck : checkPath path with
  | error e =>
    rw [hcheck] at h
    contradiction
  | ok u =>
    rw [hcheck] at h
    exact Folder.follow_eq_straight h

theorem find_eq (d : Disk) (path : String) :
    d.find path = (checkPath path).bind fun _ =>
      ((d.top.follow [] (pathNames path)).bind d.top.find).bind (Entry.foundAt path) := by
  unfold find names
  cases checkPath path with
  | error e => rfl
  | ok u =>
    cases d.top.follow [] (pathNames path) with
    | error e => rfl
    | ok found =>
      change (d.top.find found).bind _ = (d.top.find found).bind _
      congr 1

/-- What is found of a document is what is found at the folder of documents, and in it. -/
theorem find_document (d : Disk) {path : String} (h : IsDocumentPath path) (folder : String) :
    d.find (joinPath folder path) = (checkPath (joinPath folder path)).bind fun _ =>
      (d.find folder).bind (Entry.inside (documentNames path)) := by
  rw [find_eq, find_eq]
  cases hcheck : checkPath (joinPath folder path) with
  | error e => rfl
  | ok u =>
    obtain ⟨between, hjoined⟩ := h.joinPath_eq_append folder
    have hfolder : checkPath folder = .ok () := by
      rw [hjoined, String.append_assoc] at hcheck
      exact checkPath_of_append hcheck
    rw [hfolder, h.pathNames_joinPath, Folder.follow_append, h.foundAt_eq]
    cases d.top.follow [] (pathNames folder) with
    | error e => rfl
    | ok found =>
      have hfind := Folder.follow_find d.top found.reverse h.noWayBack h.getLast?_ne
      rw [List.reverse_reverse, ← documentNames,
        Folder.find_append d.top found h.leadsBelow.ne_nil] at hfind
      change ((d.top.follow found.reverse (pieces '/' path)).bind d.top.find).bind Except.ok =
        ((d.top.find found).bind (Entry.foundAt folder)).bind (Entry.inside (documentNames path))
      rw [hfind]
      cases d.top.find found with
      | error e => rfl
      | ok e =>
        change (Entry.inside (documentNames path) e).bind Except.ok =
          (Entry.foundAt folder e).bind (Entry.inside (documentNames path))
        rw [Entry.foundAt_bind_inside]
        cases Entry.inside (documentNames path) e <;> rfl

end Disk

/-! ## Programs on a disk -/

/-- A program that was read from a document below a folder. -/
def ReadBelow (d : Disk) (folder : String) (p : Program) : Prop :=
  ∃ es names bytes, d.find folder = .ok (.folder es) ∧ LeadsBelow names ∧
    Folder.find es names = .ok (.file bytes p.stamp) ∧ readProgram bytes = .ok p.nodes

/-- Disks with the same folder of documents have the same documents. -/
theorem findDocument_congr {d d' : Disk} {folder : String} (h : d'.find folder = d.find folder)
    (id : String) : findDocument d' folder id = findDocument d folder id := by
  unfold findDocument
  cases hpath : documentPath? id with
  | none => rfl
  | some path =>
    have hdocument := documentPath?_isDocumentPath hpath
    dsimp only
    rw [d'.find_document hdocument, d.find_document hdocument, h]

theorem folderSource_congr {d d' : Disk} {folder : String} (h : d'.find folder = d.find folder) :
    folderSource d' folder = folderSource d folder := by
  unfold folderSource
  simp only [findDocument_congr h]

/-- A document that is found is below the folder of documents. -/
theorem findDocument_eq_ok {d : Disk} {folder id : String} {e : Entry}
    (h : findDocument d folder id = .ok e) :
    ∃ es names, d.find folder = .ok (.folder es) ∧ LeadsBelow names ∧
      Folder.find es names = .ok e := by
  unfold findDocument at h
  split at h
  · contradiction
  · next path hpath =>
    have hdocument := documentPath?_isDocumentPath hpath
    rw [d.find_document hdocument] at h
    cases hcheck : checkPath (joinPath folder path) with
    | error e =>
      rw [hcheck] at h
      contradiction
    | ok u =>
      rw [hcheck] at h
      rcases hfolder : d.find folder with e | ⟨bytes, stamp⟩ | es
      · rw [hfolder] at h
        contradiction
      · rw [hfolder] at h
        contradiction
      · refine ⟨es, documentNames path, rfl, hdocument.leadsBelow, ?_⟩
        rw [hfolder] at h
        simp only [Except.bind, Entry.inside] at h
        split at h
        · next hfound => rw [hfound, Except.ok.inj h]
        · contradiction

theorem readBelow_of_readFresh {d : Disk} {folder id : String} {registry : Registry}
    {stamp : Stamp} {p : Program} (hstamp : (folderSource d folder).stamp id = .ok stamp)
    (hread : ProgramCache.readFresh (folderSource d folder) registry id stamp = .ok p) :
    ReadBelow d folder p := by
  obtain ⟨nodes, hnodes, -, rfl⟩ := ProgramCache.readFresh_eq_ok.mp hread
  dsimp only [folderSource] at hstamp hnodes
  rcases hfound : findDocument d folder id with e | ⟨bytes, found⟩ | es
  · rw [hfound] at hnodes
    contradiction
  · rw [hfound] at hstamp hnodes
    obtain rfl := Except.ok.inj hstamp
    obtain ⟨es, names, hfolder, hbelow, hfile⟩ := findDocument_eq_ok hfound
    exact ⟨es, names, bytes, hfolder, hbelow, hfile, hnodes⟩
  · rw [hfound] at hnodes
    contradiction

/-! ## Runs -/

/-- What is kept was kept before, or was read from below a folder. -/
def KeptOrBelow (d : Disk) (folder : String) (before after : ProgramCache) : Prop :=
  ∀ key p, after.get? key = some p → before.get? key = some p ∨ ReadBelow d folder p

theorem KeptOrBelow.load {d : Disk} {folder : String} {before c : ProgramCache}
    (hc : KeptOrBelow d folder before c) (registry : Registry) (id : String) :
    KeptOrBelow d folder before (c.load (folderSource d folder) registry id).2 := by
  obtain ⟨e, h⟩ | ⟨stamp, p, -, -, h⟩ | ⟨stamp, p, hstamp, hread, h⟩ :=
    ProgramCache.load_cases c (folderSource d folder) registry id
  · rwa [h]
  · rwa [h]
  · rw [h]
    intro key q hq
    rw [ProgramCache.get?_insert] at hq
    split at hq
    · obtain rfl := Option.some.inj hq
      exact .inr (readBelow_of_readFresh hstamp hread)
    · exact hc key q hq

namespace Run

/-- A run keeps what loads keep of the programs. -/
theorem kept_invariant {h : Host} {K : ProgramCache → Prop}
    (hload : ∀ {c}, K c → ∀ id, K (c.load h.source h.registry id).2) :
    Invariant h (fun _ => True) (fun (_ : Unit) s => K s.programs) fun _ _ => () where
  mild _ := trivial
  leaf {_ s t} hl hs := by
    rw [hl.programs]
    exact hs
  place hs _ _ := hs
  based hs _ := hs
  load hs id := hload hs id
  unread _ _ := trivial
  tooDeep _ _ := trivial
  began hs _ := hs
  ended hs _ _ := hs
  opened hs _ _ _ _ := hs
  closed _ ht _ _ := ht

end Run

theorem ResponseCache.probe_congr {d d' : Disk} {folder : String}
    (hfolder : d'.find folder = d.find folder) (hnow : d'.now = d.now) :
    probe d' folder = probe d folder := by
  have hentries : entries d' folder = entries d folder := by
    rw [entries, entries, hfolder]
  have hage : d'.age = d.age := by
    funext stamp
    cases stamp <;> simp [Disk.age, hnow]
  funext id seconds
  rw [probe, probe, hentries, hage]

open Run (executeProgram)

namespace Engine

variable {e : Engine} {fuel : Nat} {r : Request} {request : Headers} {batch : Bool} {f : Finished}

theorem run_keeps {K : ProgramCache → Prop}
    (hload : ∀ {c}, K c → ∀ id, K (c.load e.source e.registry id).2) (he : K e.programs)
    (hf : e.run fuel r request batch = some f) : K f.engine.programs := by
  have hI := Run.kept_invariant (h := e.host request) (K := K) fun hc id => hload hc id
  have hconsult : ConsultSettles (e.host request) (⊤ : Filter Unit) (fun _ => True)
      (fun (_ : Unit) s => K s.programs) fun _ => (e.host request).stored :=
    consultSettles_of_stable (fun hs _ => hs) fun hs _ => hs
  have hend := ((executeProgram_settles hI hconsult fuel () r.program).run
    (s := e.initialState (Context.ofParameters r.parameters) batch) he).2
  rw [run_eq] at hf
  rw [finish_engine hf]
  exact hend

/-- A disk that an engine cannot tell from its own: it has the same programs, and the same
responses are stored at the same time. -/
structure SeesAlike (e : Engine) (d : Disk) : Prop where
  programs : d.find (Storage.programFolder e.config.root) =
    e.disk.find (Storage.programFolder e.config.root)
  stored : d.find (Storage.cacheFolder e.config.root) =
    e.disk.find (Storage.cacheFolder e.config.root)
  now : d.now = e.disk.now

theorem SeesAlike.run_onDisk {d : Disk} (hd : e.SeesAlike d) :
    (e.onDisk d).run fuel r request batch =
      (e.run fuel r request batch).map fun f => { f with engine := f.engine.onDisk d } := by
  have hsource : (e.onDisk d).source = e.source := by
    unfold source
    rw [← folderSource_congr hd.programs]
    rfl
  have hprobe : (e.onDisk d).probe = e.probe := ResponseCache.probe_congr hd.stored hd.now
  have hhost : (e.onDisk d).host request = e.host request := by
    unfold host
    rw [hsource, hprobe]
    rfl
  have hinitial : (e.onDisk d).initialState = e.initialState := rfl
  rw [run_eq, run_eq, hhost, hinitial]
  rcases executeProgram (e.host request) fuel r.program
    (e.initialState (Context.ofParameters r.parameters) batch) with ⟨(err | _) | flow, t⟩
  · rfl
  · rfl
  · rfl

end Engine

/-- **Programs are read from below the program folder, and from nowhere else.**

1. Every segment of a resolved reference is an ordinary name.
2. A detour between any two segments of a reference changes nothing.
3. The path of a document leads from every root to what is strictly below it, by ordinary
   names the last of which has the ending of documents; a disk follows it in no other way.
4. Of the resolved references only the empty id has no document.
5. So whatever the program, the parameters and the documents are, a run goes the same way on
   every disk that has the same things below the program folder, with the same responses
   stored; and what it keeps of programs that was not kept before, it has read from there. -/
theorem programs_stay_below_root :
    (∀ base reference, ∀ s ∈ idSegments (resolveReference base reference), IsName s) ∧
      (∀ base a b detour, Detour detour →
        resolveReference base (a ++ "/" ++ detour ++ "/" ++ b) =
          resolveReference base (a ++ "/" ++ b)) ∧
      (∀ id path, documentPath? id = some path → LeadsBelow (documentNames path) ∧
        ∀ root, straightPath (joinPath root path) = straightPath root ++ documentNames path ∧
          ∀ (d : Disk) found, d.names (joinPath root path) = .ok found →
            found = straightPath root ++ documentNames path) ∧
      (∀ base reference, documentPath? (resolveReference base reference) = none ↔
        resolveReference base reference = "") ∧
      ∀ e : Engine, e.origin = .folder → ∀ fuel r request batch,
        (∀ d, e.SeesAlike d → (e.onDisk d).run fuel r request batch =
          (e.run fuel r request batch).map fun f => { f with engine := f.engine.onDisk d }) ∧
        ∀ f, e.run fuel r request batch = some f →
          ∀ key p, f.engine.programs.get? key = some p → e.programs.get? key = some p ∨
            ReadBelow e.disk (Storage.programFolder e.config.root) p := by
  refine ⟨resolveReference_segments, fun base a b _ => resolveReference_detour base a b,
    fun id path hpath => ?_, documentPath?_resolveReference,
    fun e horigin fuel r request batch => ⟨fun d hd => hd.run_onDisk, fun f hf => ?_⟩⟩
  · have hdocument := documentPath?_isDocumentPath hpath
    refine ⟨hdocument.leadsBelow, fun root => ⟨hdocument.straightPath_joinPath root, ?_⟩⟩
    intro d found hfound
    rw [Disk.names_eq_straightPath hfound, hdocument.straightPath_joinPath]
  · have hsource : e.source = folderSource e.disk (Storage.programFolder e.config.root) := by
      rw [Engine.source, horigin]
    refine Engine.run_keeps
      (K := KeptOrBelow e.disk (Storage.programFolder e.config.root) e.programs)
      (fun hc id => ?_) (fun _ _ => Or.inl) hf
    rw [hsource]
    exact hc.load e.registry id

/-- A page that runs the part which a request names, and what stands outside the program
folder. -/
def shopDisk (outside : Folder) : Disk where
  top := (".actionflow", .folder [("programs", .folder [("shop", .folder
    [("page.xml",
        .file (encode "<program><evaluate src=\"\x7bpart\x7d\"/></program>") (.written 0)),
      ("part.xml", .file (encode "<program><reply value=\"part\"/></program>") (.written 1))])])])
    :: outside

/-- An engine on such a disk, with a document at the very top. -/
def shopEngine : Engine where
  disk := shopDisk [("secret.xml", .file (encode "<program/>") (.written 2))]

theorem shopEngine_seesAlike : shopEngine.SeesAlike (shopDisk []) where
  programs := by rfl
  stored := by rfl
  now := rfl

/-- A request with a part that climbs out of the program folder. -/
def climbing : Request := ⟨"shop/page", [("part", .text "../../../shop/none/../part")]⟩

theorem programs_stay_below_root_shop :
    resolveReference (some "shop/page") "../../secret" = "secret" ∧ IsName "secret" ∧
      resolveReference (some "shop/page") "../../../shop/none/../part" =
        resolveReference (some "shop/page") "../../../shop/part" ∧
      straightPath (joinPath "./site" "shop/part.xml") = ["site", "shop", "part.xml"] ∧
      ∃ f, shopEngine.run 9 climbing [] false = some f ∧
        (shopEngine.onDisk (shopDisk [])).run 9 climbing [] false =
          some { f with engine := f.engine.onDisk (shopDisk []) } ∧
        ∃ p, f.engine.programs.get? "shop/part" = some p ∧
          ReadBelow shopEngine.disk (Storage.programFolder shopEngine.config.root) p := by
  obtain ⟨hnames, hdetour, hdocument, -, hrun⟩ := programs_stay_below_root
  have hnone : IsName "none" := ⟨by decide, by decide, by decide, by decide⟩
  have hback : resolveReference (some "shop/page") "../../../shop/none/../part" =
      resolveReference (some "shop/page") "../../../shop/part" := by
    have hlong : "../../../shop" ++ "/" ++ ("none" ++ "/" ++ "..") ++ "/" ++ "part" =
        "../../../shop/none/../part" := by decide
    have hshort : "../../../shop" ++ "/" ++ "part" = "../../../shop/part" := by decide
    rw [← hlong, ← hshort]
    exact hdetour _ "../../../shop" "part" _ (.back hnone)
  obtain ⟨-, hpath⟩ := hdocument "shop/part" "shop/part.xml" (by decide)
  have hkept : ((shopEngine.run 9 climbing [] false).bind fun f =>
      f.engine.programs.get? "shop/part").isSome = true := by decide +kernel
  obtain ⟨p, hp⟩ := Option.isSome_iff_exists.mp hkept
  obtain ⟨f, hf, hfp⟩ := Option.bind_eq_some_iff.mp hp
  obtain ⟨hother, hbelow⟩ := hrun shopEngine rfl 9 climbing [] false
  have hsame := hother (shopDisk []) shopEngine_seesAlike
  rw [hf, Option.map_some] at hsame
  refine ⟨by decide, hnames (some "shop/page") "../../secret" "secret" (by decide),
    hback, ?_, f, hf, hsame, p, hfp, ?_⟩
  · rw [(hpath "./site").1]
    decide
  · exact (hbelow f hf "shop/part" p hfp).resolve_left (by simp [shopEngine, ProgramCache.get?])

end ActionTree
