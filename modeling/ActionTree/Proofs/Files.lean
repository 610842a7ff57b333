import ActionTree.Files

/-!
# ActionTree.Proofs.Files

Folders that are made and filled along plain paths, and files along any path.

1. under a name there is what was put there last (`Folder.get?_set`), and among distinct names
   the one entry that has it (`Folder.get?_eq_some_iff`);
2. making folders where names lead leaves what is in them alone
   (`Folder.find_makeFolders`), and what is put into a folder is found there
   (`Folder.find_putFolder`);
3. a path without `.` and `..` leads through its own names, on any disk
   (`Disk.names_of_plain`);
4. a file that is written makes no folder go away, so its path still leads through the same
   names, whatever they are, and to the bytes that were written (`Disk.read_write`).
-/

namespace ActionTree

open Text

namespace Folder

theorem get?_set (es : Folder) (name : String) (e : Entry) (key : String) :
    get? (set es name e) key = if key = name then some e else get? es key := by
  induction es with
  | nil => simp only [set, get?, eq_comm (a := name)]
  | cons entry es ih =>
    obtain ⟨n, old⟩ := entry
    rw [set]
    split
    · next hn =>
      subst hn
      simp only [get?, eq_comm (a := n)]
      split <;> rfl
    · next hn =>
      rw [get?, get?, ih]
      split
      · next hkey =>
        subst hkey
        rw [if_neg hn]
      · rfl

/-- Where no two entries share a name, under a name there is the entry of that name. -/
theorem get?_eq_some_iff {es : Folder} (hdistinct : (es.map Prod.fst).Nodup) {name : String}
    {e : Entry} : get? es name = some e ↔ (name, e) ∈ es := by
  induction es with
  | nil => simp [get?]
  | cons entry es ih =>
    obtain ⟨n, old⟩ := entry
    rw [List.map_cons, List.nodup_cons] at hdistinct
    rw [get?, List.mem_cons, Prod.mk.injEq]
    split
    · next hn =>
      subst hn
      have hother : (n, e) ∉ es := fun he => hdistinct.1 (List.mem_map.mpr ⟨(n, e), he, rfl⟩)
      simp [hother, eq_comm]
    · next hn => simp [ih hdistinct.2, Ne.symm hn]

/-- The entries of the folder that names lead to; none if they lead to no folder. -/
def entriesAt (f : Folder) (names : List String) : Folder :=
  match f.find names with
  | .ok (.folder es) => es
  | _ => []

theorem entriesAt_of_find {f es : Folder} {names : List String}
    (h : f.find names = .ok (.folder es)) : f.entriesAt names = es := by
  rw [entriesAt, h]

theorem entriesAt_nil (names : List String) : entriesAt [] names = [] := by
  cases names with
  | nil => rfl
  | cons name names =>
    unfold entriesAt find
    by_cases hname : nameLimit < size name
    · rw [if_pos hname]
    · rw [if_neg hname]
      rfl

/-- Names lead to a folder if the first of them is that of a folder, and the others lead on
from there. -/
theorem find_cons_eq_folder {f es : Folder} {name : String} {names : List String} :
    f.find (name :: names) = .ok (.folder es) ↔
      ¬ nameLimit < size name ∧
        ∃ g : Folder, f.get? name = some (.folder g) ∧ g.find names = .ok (.folder es) := by
  rw [find]
  by_cases hname : nameLimit < size name
  · simp [hname]
  · rw [if_neg hname]
    rcases f.get? name with _ | ⟨bytes, stamp⟩ | g
    · simp [hname]
    · simp only [hname]
      split <;> simp
    · simp [hname]

/-- Folders are made in the folder of the first name, or in a new one. -/
theorem makeFolders_cons {f f' : Folder} {name : String} {names : List String}
    (h : f.makeFolders (name :: names) = .ok f') :
    ¬ nameLimit < size name ∧ ∃ g g' : Folder, g.makeFolders names = .ok g' ∧
      f' = f.set name (.folder g') ∧ f.entriesAt (name :: names) = g.entriesAt names := by
  rw [makeFolders] at h
  split at h
  · contradiction
  · next hname =>
    refine ⟨hname, ?_⟩
    rcases hget : f.get? name with _ | ⟨bytes, stamp⟩ | g
    · have hnone : f.entriesAt (name :: names) = [] := by
        simp only [entriesAt, find, if_neg hname, hget]
      simp only [hget] at h
      cases hmade : makeFolders [] names with
      | error e =>
        rw [hmade] at h
        contradiction
      | ok g' =>
        rw [hmade] at h
        cases h
        exact ⟨[], g', hmade, rfl, by rw [hnone, entriesAt_nil]⟩
    · simp only [hget] at h
      contradiction
    · simp only [hget] at h
      cases hmade : makeFolders g names with
      | error e =>
        rw [hmade] at h
        contradiction
      | ok g' =>
        rw [hmade] at h
        cases h
        refine ⟨g, g', hmade, rfl, ?_⟩
        simp only [entriesAt, find, if_neg hname, hget]

/-- Making folders where names lead leaves what is there alone. -/
theorem find_makeFolders {f f' : Folder} {names : List String}
    (h : f.makeFolders names = .ok f') : f'.find names = .ok (.folder (f.entriesAt names)) := by
  induction names generalizing f f' with
  | nil =>
    cases h
    rfl
  | cons name names ih =>
    obtain ⟨hname, g, g', hmade, rfl, hentries⟩ := makeFolders_cons h
    rw [find_cons_eq_folder]
    exact ⟨hname, g', by rw [get?_set, if_pos rfl], by rw [hentries, ih hmade]⟩

/-- What is put into a folder is found there. -/
theorem find_putFolder {f es : Folder} {names : List String}
    (h : f.find names = .ok (.folder es)) (new : Folder) :
    ∃ f', f.putFolder new names = some f' ∧ f'.find names = .ok (.folder new) := by
  induction names generalizing f with
  | nil => exact ⟨new, rfl, rfl⟩
  | cons name names ih =>
    obtain ⟨hname, g, hget, hfind⟩ := find_cons_eq_folder.mp h
    obtain ⟨g', hput, hnew⟩ := ih hfind
    refine ⟨f.set name (.folder g'), by simp [putFolder, hget, hput], ?_⟩
    rw [find_cons_eq_folder]
    exact ⟨hname, g', by rw [get?_set, if_pos rfl], hnew⟩

/-! ## Files -/

/-- A file is put under the first name, unless that is a folder's, or into the folder of that
name. -/
theorem putFile_cons {f f' : Folder} {file : Entry} {name : String} {names : List String}
    (h : f.putFile file (name :: names) = .ok f') :
    ¬ nameLimit < size name ∧
      (names = [] ∧ (∀ g, f.get? name ≠ some (.folder g)) ∧ f' = f.set name file ∨
        names ≠ [] ∧ ∃ g g' : Folder, f.get? name = some (.folder g) ∧
          g.putFile file names = .ok g' ∧ f' = f.set name (.folder g')) := by
  rw [putFile.eq_def] at h
  dsimp only at h
  split at h
  · contradiction
  · next hname =>
    refine ⟨hname, ?_⟩
    split at h
    · contradiction
    · next hfile =>
      cases h
      exact .inl ⟨rfl, fun g hg => hfile g hg, rfl⟩
    · next g _ _ hget =>
      cases hput : putFile g file _ with
      | error e =>
        rw [hput] at h
        contradiction
      | ok g' =>
        rw [hput] at h
        cases h
        exact .inr ⟨List.cons_ne_nil _ _, g, g', hget, hput, rfl⟩
    · contradiction
    · contradiction

/-- A file is found where it was put. -/
theorem find_putFile {f f' : Folder} {bytes : List UInt8} {stamp : Stamp} {names : List String}
    (h : f.putFile (.file bytes stamp) names = .ok f') :
    f'.find names = .ok (.file bytes stamp) := by
  induction names generalizing f f' with
  | nil => contradiction
  | cons name names ih =>
    obtain ⟨hname, ⟨rfl, -, rfl⟩ | ⟨-, g, g', -, hput, rfl⟩⟩ := putFile_cons h
    · rw [find, if_neg hname, get?_set, if_pos rfl]
      rfl
    · rw [find, if_neg hname, get?_set, if_pos rfl]
      exact ih hput

/-- Names that led to a folder still do so after a file was put somewhere. -/
theorem isFolder_putFile {f f' es : Folder} {bytes : List UInt8} {stamp : Stamp}
    {names along : List String} (h : f.putFile (.file bytes stamp) names = .ok f')
    (hfind : f.find along = .ok (.folder es)) : ∃ es', f'.find along = .ok (.folder es') := by
  induction names generalizing f f' along with
  | nil => contradiction
  | cons name names ih =>
    cases along with
    | nil => exact ⟨f', rfl⟩
    | cons first along =>
      obtain ⟨hfirst, g, hget, hmore⟩ := find_cons_eq_folder.mp hfind
      simp only [find_cons_eq_folder]
      by_cases hsame : first = name
      · subst hsame
        obtain ⟨-, ⟨-, hfile, -⟩ | ⟨-, g₁, g', hget', hput, rfl⟩⟩ := putFile_cons h
        · exact absurd hget (hfile g)
        · obtain rfl : g = g₁ := Entry.folder.inj (Option.some.inj (hget.symm.trans hget'))
          obtain ⟨es', hes'⟩ := ih hput hmore
          exact ⟨es', hfirst, g', by rw [get?_set, if_pos rfl], hes'⟩
      · have hother : f'.get? first = f.get? first := by
          obtain ⟨-, ⟨-, -, rfl⟩ | ⟨-, -, -, -, -, rfl⟩⟩ := putFile_cons h <;>
            rw [get?_set, if_neg hsame]
        exact ⟨es, hfirst, g, hother.trans hget, hmore⟩

theorem notFolder?_eq_none {f : Folder} {names : List String} :
    f.notFolder? names = none ↔
      (names.all fun name => name == "..") = true ∨
        ∃ es, f.find names.reverse = .ok (.folder es) := by
  rw [notFolder?]
  split
  · next hall => simp [hall]
  · next hall =>
    rcases f.find names.reverse with e | ⟨bytes, stamp⟩ | es <;> simp [hall]

/-- Where no folder goes away, a path leads through the same names. -/
theorem follow_eq_ok {f f' : Folder}
    (hfolders : ∀ along es, f.find along = .ok (.folder es) →
      ∃ es', f'.find along = .ok (.folder es'))
    {seen names led : List String} (h : f.follow seen names = .ok led) :
    f'.follow seen names = .ok led := by
  induction names generalizing seen with
  | nil => exact h
  | cons name names ih =>
    rw [follow] at h ⊢
    split at h
    · next hdots =>
      rw [if_pos hdots]
      split at h
      · contradiction
      · next hnone =>
        have hnone' : f'.notFolder? seen = none := by
          rw [notFolder?_eq_none] at hnone ⊢
          exact hnone.imp_right fun ⟨es, hes⟩ => hfolders _ es hes
        rw [hnone']
        exact ih h
    · next hname =>
      rw [if_neg hname]
      exact ih h

/-! ## Plain paths -/

/-- Names other than `.` and `..`. -/
def Plain (names : List String) : Prop := ∀ name ∈ names, name ≠ "." ∧ name ≠ ".."

theorem follow_of_plain (f : Folder) (seen : List String) {names : List String}
    (h : Plain names) : f.follow seen names = .ok (seen.reverse ++ names) := by
  induction names generalizing seen with
  | nil => rw [follow, List.append_nil]
  | cons name names ih =>
    have hname := h name List.mem_cons_self
    have hmore := ih (name :: seen) fun n hn => h n (List.mem_cons_of_mem _ hn)
    rw [follow, if_neg (by simp [hname]), hmore, List.reverse_cons, List.append_assoc]
    rfl

theorem makeAlong_of_plain (f : Folder) (seen : List String) {names : List String}
    (h : Plain names) : f.makeAlong seen names = f.makeFolders (seen.reverse ++ names) := by
  induction names generalizing seen with
  | nil => rw [makeAlong, List.append_nil]
  | cons name names ih =>
    have hname := h name List.mem_cons_self
    have hmore := ih (name :: seen) fun n hn => h n (List.mem_cons_of_mem _ hn)
    rw [makeAlong, if_neg hname.1, if_neg hname.2, hmore, List.reverse_cons, List.append_assoc]
    rfl

end Folder

namespace Disk

/-- Such a path leads through its own names. -/
theorem names_of_plain (d : Disk) {path : String} (hcheck : checkPath path = .ok ())
    (hplain : Folder.Plain (pathNames path)) : d.names path = .ok (pathNames path) := by
  rw [names, hcheck]
  exact d.top.follow_of_plain [] hplain

/-- The folder at such a path is the one that its names lead to. -/
theorem find_of_plain (d : Disk) {path : String} (hcheck : checkPath path = .ok ())
    (hplain : Folder.Plain (pathNames path)) {es : Folder}
    (h : d.top.find (pathNames path) = .ok (.folder es)) : d.find path = .ok (.folder es) := by
  rw [find, d.names_of_plain hcheck hplain]
  change (d.top.find (pathNames path) >>= _) = _
  rw [h]
  rfl

/-- Folders are made along the names of such a path. -/
theorem makeFolders_of_plain {d made : Disk} {path : String}
    (hplain : Folder.Plain (pathNames path)) (h : d.makeFolders path = .ok made) :
    checkPath path = .ok () ∧
      ∃ top, d.top.makeFolders (pathNames path) = .ok top ∧ made = { d with top := top } := by
  rw [makeFolders, d.top.makeAlong_of_plain [] hplain] at h
  cases hcheck : checkPath path with
  | error e =>
    rw [hcheck] at h
    contradiction
  | ok u =>
    rw [hcheck, List.reverse_nil, List.nil_append] at h
    cases hmade : d.top.makeFolders (pathNames path) with
    | error e =>
      rw [hmade] at h
      contradiction
    | ok top =>
      rw [hmade] at h
      cases h
      exact ⟨rfl, top, rfl, rfl⟩

/-- What is put at such a path is found there. -/
theorem find_putFolder (d : Disk) {path : String} (hcheck : checkPath path = .ok ())
    (hplain : Folder.Plain (pathNames path)) {es : Folder}
    (h : d.top.find (pathNames path) = .ok (.folder es)) (new : Folder) :
    ∃ after, d.putFolder path new = some after ∧ after.find path = .ok (.folder new) := by
  obtain ⟨top, hput, hfind⟩ := Folder.find_putFolder h new
  refine ⟨{ d with top := top, tick := d.tick + 1 }, ?_, find_of_plain _ hcheck hplain hfind⟩
  rw [putFolder, d.names_of_plain hcheck hplain]
  change (Folder.putFolder d.top new (pathNames path) >>= _) = _
  rw [hput]
  rfl

/-- What a write does that succeeds. -/
theorem of_write_eq_ok {d d' : Disk} {path : String} {bytes : List UInt8} {date : Option Int}
    (h : d.write path bytes date = .ok d') :
    ∃ names top stamp, checkPath path = .ok () ∧
      d.top.follow [] (pathNames path) = .ok names ∧ ¬ namesFolder path = true ∧
      d.top.putFile (.file bytes stamp) names = .ok top ∧
      d' = { d with top := top, tick := d.tick + 1 } := by
  unfold write Disk.names at h
  cases hcheck : checkPath path with
  | error e =>
    rw [hcheck] at h
    contradiction
  | ok u =>
    cases hnames : d.top.follow [] (pathNames path) with
    | error e =>
      rw [hcheck, hnames] at h
      contradiction
    | ok names =>
      rw [hcheck, hnames] at h
      simp only [bind, Except.bind] at h
      split at h
      · contradiction
      · next hslash =>
        split at h
        · contradiction
        · next top hput =>
          cases h
          exact ⟨names, top, _, rfl, rfl, hslash, hput, rfl⟩

/-- A file that was written holds what was written. -/
theorem read_write {d d' : Disk} {path : String} {bytes : List UInt8} {date : Option Int}
    (h : d.write path bytes date = .ok d') : d'.read path = .ok bytes := by
  obtain ⟨names, top, stamp, hcheck, hnames, hslash, hput, rfl⟩ := of_write_eq_ok h
  have hnames' : top.follow [] (pathNames path) = .ok names :=
    Folder.follow_eq_ok (fun _ _ => Folder.isFolder_putFile hput) hnames
  rw [read, find, Disk.names, hcheck]
  change Except.bind (top.follow [] (pathNames path) >>= _) _ = _
  rw [hnames']
  change Except.bind (top.find names >>= _) _ = _
  rw [Folder.find_putFile hput]
  change Except.bind (if namesFolder path = true then _ else _) _ = _
  rw [if_neg hslash]
  rfl

end Disk

end ActionTree
