import BlobDepot.Proofs.FileTree.Walk

/-! # What file operations change

`FileTree.Alters S` says how little an operation changes: no directory is lost, and
the files outside of `S` stay as they are.  New directories may appear, which is all
that `makeDirs` does; the operations on files touch the places of their paths only.
All of them keep a tree rooted.

A path is tied to its place by `locate`: where an operation found the site of a path,
`stat` sees what stands at the site (`stat_of_locate`), and every tree that keeps
the directories has the same site (`locate_of_keeps`).  So what is written is
read again (`stat_of_writeFile`).
-/

namespace BlobDepot.FileTree

/-- No directory is lost, and outside of `S` the files are the same. -/
structure Alters (S : Location → Prop) (t t' : FileTree) : Prop where
  keeps : t.Keeps t'
  files : ∀ q data, ¬ S q → (t'.node? q = some (.file data) ↔ t.node? q = some (.file data))

/-- The bytes of the file at a place. -/
def file? (t : FileTree) (q : Location) : Option ByteArray :=
  match t.node? q with
  | some (.file data) => some data
  | _ => none

/-- The place at which the last name of a path belongs. -/
def Belongs (t : FileTree) (p : Path) (q : Location) : Prop :=
  ∃ directory name slash, t.locate p = .ok ⟨directory, some name, slash⟩ ∧ q = directory ++ [name]

variable {t t' : FileTree}

theorem mem_nodes_of_node? {q : Location} {node : Node} (apart : ¬ q <+: t.home)
    (stands : t.node? q = some node) : (q, node) ∈ t.nodes.toList := by
  rw [node?, if_neg apart] at stands
  exact Std.ExtTreeMap.mem_toList_iff_getElem?_eq_some.mpr stands

theorem file?_eq_some_iff {q : Location} {data : ByteArray} :
    t.file? q = some data ↔ t.node? q = some (.file data) := by
  rw [file?]
  split <;> simp_all

theorem Alters.file?_eq {S : Location → Prop} (h : Alters S t t') {q : Location} (outside : ¬ S q) :
    t'.file? q = t.file? q :=
  Option.ext fun data => by
    rw [file?_eq_some_iff, file?_eq_some_iff]
    exact h.files q data outside

theorem Alters.refl (S : Location → Prop) (t : FileTree) : Alters S t t :=
  ⟨⟨rfl, fun _ h => h⟩, fun _ _ _ => Iff.rfl⟩

theorem Alters.trans {S : Location → Prop} {t'' : FileTree} (h : Alters S t t')
    (h' : Alters S t' t'') : Alters S t t'' :=
  ⟨⟨h'.keeps.home.trans h.keeps.home,
      fun q stands => h'.keeps.directories q (h.keeps.directories q stands)⟩,
    fun q data outside => (h'.files q data outside).trans (h.files q data outside)⟩

theorem Alters.mono {S S' : Location → Prop} (h : Alters S t t') (sub : ∀ q, S q → S' q) :
    Alters S' t t' :=
  ⟨h.keeps, fun q data outside => h.files q data fun inside => outside (sub q inside)⟩

/-! ## Changing one place -/

theorem alters_set {place : Location} (node : Node) (vacant : t.node? place ≠ some .directory)
    (S : Location → Prop) (inside : S place) : Alters S t (t.set place node) := by
  have apart := not_start_of_node? vacant
  refine ⟨⟨rfl, fun q stands => ?_⟩, fun q data outside => ?_⟩
  · rw [node?_set apart, if_neg]
    · exact stands
    · rintro rfl
      exact vacant stands
  · rw [node?_set apart, if_neg]
    rintro rfl
    exact outside inside

/-- A file put in no directory's place makes no directory either. -/
theorem keeps_of_set_file {place : Location} (vacant : t.node? place ≠ some .directory)
    (data : ByteArray) : (t.set place (.file data)).Keeps t := by
  refine ⟨rfl, fun q stands => ?_⟩
  rw [node?_set (not_start_of_node? vacant)] at stands
  split at stands
  · cases stands
  · exact stands

theorem alters_erase {place : Location} (vacant : t.node? place ≠ some .directory)
    (S : Location → Prop) (inside : S place) : Alters S t (t.erase place) := by
  have apart := not_start_of_node? vacant
  refine ⟨⟨rfl, fun q stands => ?_⟩, fun q data outside => ?_⟩
  · rw [node?_erase apart, if_neg]
    · exact stands
    · rintro rfl
      exact vacant stands
  · rw [node?_erase apart, if_neg]
    rintro rfl
    exact outside inside

theorem alters_addDirectory {place : Location} (vacant : t.node? place = none)
    (S : Location → Prop) : Alters S t (t.set place .directory) := by
  have apart : ¬ place <+: t.home := not_start_of_node? (by simp [vacant])
  refine ⟨⟨rfl, fun q stands => ?_⟩, fun q data _ => ?_⟩
  · rw [node?_set apart]
    split
    · rfl
    · exact stands
  · rw [node?_set apart]
    split
    · -- Nothing stood there, so no file is lost, and what stands there now is none.
      rename_i here
      subst here
      simp [vacant]
    · exact Iff.rfl

theorem node?_bare {home place : Location} (apart : ¬ place <+: home) :
    node? { nodes := ∅, home } place = none := by
  rw [node?, if_neg apart]
  exact Std.ExtTreeMap.getElem?_empty

theorem rooted_bare (home : Location) : Rooted { nodes := ∅, home } := by
  intro place name stands
  have start : place ++ [name] <+: home := by
    by_contra apart
    exact stands (node?_bare apart)
  exact node?_of_start ((List.prefix_append place [name]).trans start)

theorem rooted_empty : FileTree.empty.Rooted :=
  rooted_bare []

theorem Rooted.set (rooted : t.Rooted) {place : Location} {name : String} {node : Node}
    (above : t.node? place = some .directory)
    (below : t.node? (place ++ [name]) ≠ some .directory) :
    (t.set (place ++ [name]) node).Rooted := by
  have apart := not_start_of_node? below
  intro q last stands
  -- Below the changed place nothing stands, since no directory was there.
  have alone : q ≠ place ++ [name] ∨ t.node? (q ++ [last]) = none := by
    by_contra both
    push Not at both
    obtain ⟨rfl, there⟩ := both
    exact below (rooted _ _ there)
  rw [node?_set apart] at stands ⊢
  by_cases new : q ++ [last] = place ++ [name]
  · obtain ⟨rfl, _⟩ := List.append_inj' new rfl
    rw [if_neg (by simp)]
    exact above
  · rw [if_neg new] at stands
    obtain other | absent := alone
    · rw [if_neg other]
      exact rooted q last stands
    · exact absurd absent stands

theorem Rooted.erase (rooted : t.Rooted) {place : Location}
    (below : t.node? place ≠ some .directory) : (t.erase place).Rooted := by
  have apart := not_start_of_node? below
  intro q last stands
  rw [node?_erase apart] at stands ⊢
  split at stands
  · exact absurd rfl stands
  · have above := rooted q last stands
    rw [if_neg]
    · exact above
    · rintro rfl
      exact below above

/-! ## Paths and places -/

theorem namesOf_eq_ok {p : Path} {names : List String} (read : namesOf p = .ok names) :
    names = p.pieces.filter (· != "") := by
  rw [namesOf] at read
  split at read
  · cases read
  · split at read
    · cases read
    · split at read
      · cases read
      · exact (Except.ok.inj read).symm

theorem locate_eq_ok_iff {p : Path} {directory : Location} {name : String} {slash : Bool} :
    t.locate p = .ok ⟨directory, some name, slash⟩ ↔
      ∃ names, namesOf p = .ok names ∧
        t.walk p.absolute names.dropLast = .ok ⟨directory, .directory⟩ ∧
        names.getLast? = some name ∧ Plain name ∧ name.utf8ByteSize ≤ maxNameBytes ∧
        slash = decide (p.pieces.getLast? = some "") := by
  rw [locate]
  rw [bind_eq_ok_iff]
  refine exists_congr fun names => and_congr_right fun _ => ?_
  rw [bind_eq_ok_iff]
  constructor
  · intro given
    obtain ⟨⟨place, node⟩, led, site⟩ := given
    cases node with
    | file data => cases site
    | directory =>
      simp only at site
      split at site
      · cases site
      · rename_i short
        simp only [Except.ok.injEq, Site.mk.injEq] at site
        obtain ⟨rfl, last, rfl⟩ := site
        rw [last] at short
        rw [Option.filter_eq_some_iff] at last
        refine ⟨led, last.1, by simpa [Plain] using last.2, ?_, rfl⟩
        simpa using short
  · intro given
    obtain ⟨led, last, plain, short, rfl⟩ := given
    refine ⟨_, led, ?_⟩
    have kept : names.getLast?.filter (fun name => name != "." && name != "..") = some name := by
      rw [last, Option.filter_some]
      simp [plain.1, plain.2]
    simp only [kept, Option.any_some]
    rw [if_neg (by simpa using short)]

theorem locate_of_keeps (keeps : t.Keeps t') {p : Path} {directory : Location} {name : String}
    {slash : Bool} (found : t.locate p = .ok ⟨directory, some name, slash⟩) :
    t'.locate p = .ok ⟨directory, some name, slash⟩ := by
  obtain ⟨names, read, led, rest⟩ := locate_eq_ok_iff.mp found
  exact locate_eq_ok_iff.mpr ⟨names, read, walk_of_keeps keeps led rfl, rest⟩

theorem node?_of_locate {p : Path} {directory : Location} {name : String} {slash : Bool}
    (found : t.locate p = .ok ⟨directory, some name, slash⟩) :
    t.node? directory = some .directory := by
  obtain ⟨names, _, led, _⟩ := locate_eq_ok_iff.mp found
  exact node?_of_walk led

theorem stat_of_locate {p : Path} {directory : Location} {name : String} {slash : Bool}
    (found : t.locate p = .ok ⟨directory, some name, slash⟩) :
    t.stat p = match t.node? (directory ++ [name]) with
      | none => .error .noSuchEntry
      | some .directory => .ok .directory
      | some (.file data) => if slash then .error .notDirectory else .ok (.file data) := by
  obtain ⟨names, read, led, last, plain, short, rfl⟩ := locate_eq_ok_iff.mp found
  -- The last step of the way is the look-up at the site.
  have split : names = names.dropLast ++ [name] := by
    obtain ⟨front, rfl⟩ := List.getLast?_eq_some_iff.mp last
    simp
  have way : t.walk p.absolute names = t.find (directory ++ [name]) := by
    rw [split, walk_append, led]
    simp only [bind, Except.bind]
    rw [walkFrom_cons, follow_plain plain, if_neg (Nat.not_lt.mpr short)]
    cases t.find (directory ++ [name]) <;> rfl
  simp only [stat, read, way, find, bind, Except.bind]
  cases t.node? (directory ++ [name]) with
  | none => rfl
  | some node =>
    cases node with
    | directory => rfl
    | file data => simp only [decide_eq_true_eq]

theorem stat_eq_directory_iff {p : Path} :
    t.stat p = .ok .directory ↔
      ∃ names, namesOf p = .ok names ∧
        ∃ place, t.walk p.absolute names = .ok ⟨place, .directory⟩ := by
  rw [stat, bind_eq_ok_iff]
  refine exists_congr fun names => and_congr_right fun _ => ?_
  rw [bind_eq_ok_iff]
  constructor
  · intro given
    obtain ⟨⟨place, node⟩, led, seen⟩ := given
    cases node with
    | directory => exact ⟨place, led⟩
    | file data =>
      simp only at seen
      split at seen <;> cases seen
  · intro given
    obtain ⟨place, led⟩ := given
    exact ⟨_, led, rfl⟩

theorem stat_eq_file_iff {p : Path} {data : ByteArray} :
    t.stat p = .ok (.file data) ↔
      p.pieces.getLast? ≠ some "" ∧ ∃ names, namesOf p = .ok names ∧
        ∃ place, t.walk p.absolute names = .ok ⟨place, .file data⟩ := by
  rw [stat, bind_eq_ok_iff]
  constructor
  · intro given
    obtain ⟨names, read, seen⟩ := given
    rw [bind_eq_ok_iff] at seen
    obtain ⟨⟨place, node⟩, led, seen⟩ := seen
    cases node with
    | directory => cases seen
    | file data' =>
      simp only at seen
      split at seen
      · cases seen
      · cases seen
        exact ⟨‹_›, names, read, place, led⟩
  · intro given
    obtain ⟨open_, names, read, place, led⟩ := given
    refine ⟨names, read, bind_eq_ok_iff.mpr ⟨_, led, ?_⟩⟩
    simp only [if_neg open_]

theorem isDirectory_iff {p : Path} : t.isDirectory p = true ↔ t.stat p = .ok .directory := by
  rw [isDirectory]
  split
  · simp_all
  · rename_i other
    constructor
    · intro h
      cases h
    · intro h
      exact absurd h other

theorem readFile_eq_ok_iff {p : Path} {data : ByteArray} :
    t.readFile p = .ok data ↔ t.stat p = .ok (.file data) := by
  rw [readFile]
  rw [bind_eq_ok_iff]
  constructor
  · intro given
    obtain ⟨node, seen, read⟩ := given
    cases node with
    | directory => cases read
    | file data' =>
      cases read
      exact seen
  · intro seen
    exact ⟨_, seen, rfl⟩

/-! ## Making directories -/

theorem makeDir_eq_ok {p : Path} (made : t.makeDir p = .ok t') :
    ∃ directory name slash, t.locate p = .ok ⟨directory, some name, slash⟩ ∧
      t.node? (directory ++ [name]) = none ∧ t' = t.set (directory ++ [name]) .directory := by
  rw [makeDir, bind_eq_ok_iff] at made
  obtain ⟨⟨directory, name?, slash⟩, found, made⟩ := made
  cases name? with
  | none => cases made
  | some name =>
    simp only at made
    split at made
    · cases made
    · rename_i vacant
      cases made
      exact ⟨directory, name, slash, found, by simpa using vacant, rfl⟩

theorem makeDir_of_locate {p : Path} {directory : Location} {name : String} {slash : Bool}
    (found : t.locate p = .ok ⟨directory, some name, slash⟩)
    (vacant : t.node? (directory ++ [name]) = none) :
    t.makeDir p = .ok (t.set (directory ++ [name]) .directory) := by
  rw [makeDir, found]
  simp [bind, Except.bind, vacant]

theorem alters_makeDir {p : Path} (made : t.makeDir p = .ok t') (S : Location → Prop) :
    Alters S t t' := by
  obtain ⟨directory, name, _, _, vacant, rfl⟩ := makeDir_eq_ok made
  exact alters_addDirectory vacant S

theorem Rooted.makeDir (rooted : t.Rooted) {p : Path} (made : t.makeDir p = .ok t') : t'.Rooted := by
  obtain ⟨directory, name, _, found, vacant, rfl⟩ := makeDir_eq_ok made
  exact rooted.set (node?_of_locate found) (by simp [vacant])

/-- What making each of the directories keeps, making the chain of them keeps. -/
theorem makeChain_keeps {P : FileTree → Prop} {chain : List Path}
    (keeps : ∀ {t t' : FileTree} {p : Path}, p ∈ chain → P t → t.makeDir p = .ok t' → P t')
    {t : FileTree} (h : P t) : P (t.makeChain chain).2 := by
  induction chain generalizing t with
  | nil => exact h
  | cons p above ih =>
    have here : p ∈ p :: above := List.mem_cons_self
    rw [makeChain]
    split
    · exact keeps here h ‹_›
    · have further := ih (fun member => keeps (List.mem_cons_of_mem p member)) h
      split
      · rename_i e partly partial_
        rw [partial_] at further
        exact further
      · rename_i ready done
        rw [done] at further
        split
        · exact keeps here further ‹_›
        · exact further
    · exact h

theorem alters_makeChain (t : FileTree) (chain : List Path) (S : Location → Prop) :
    Alters S t (t.makeChain chain).2 :=
  makeChain_keeps (P := Alters S t) (fun _ h made => h.trans (alters_makeDir made S)) (.refl S t)

theorem alters_makeDirs (t : FileTree) (p : Path) (S : Location → Prop) :
    Alters S t (t.makeDirs p).2 :=
  alters_makeChain t p.ancestors S

theorem Rooted.makeChain (rooted : t.Rooted) (chain : List Path) : (t.makeChain chain).2.Rooted :=
  makeChain_keeps (fun _ h made => h.makeDir made) rooted

theorem Rooted.makeDirs (rooted : t.Rooted) (p : Path) : (t.makeDirs p).2.Rooted :=
  rooted.makeChain p.ancestors

theorem isDirectory_of_makeDir {p : Path} (made : t.makeDir p = .ok t') :
    t'.isDirectory p = true := by
  have keeps := (alters_makeDir made fun _ => False).keeps
  obtain ⟨directory, name, _, found, vacant, rfl⟩ := makeDir_eq_ok made
  rw [isDirectory_iff, stat_of_locate (locate_of_keeps keeps found),
    node?_set (not_start_of_node? (by simp [vacant])), if_pos rfl]

theorem isDirectory_of_makeChain {p : Path} {above : List Path}
    (made : t.makeChain (p :: above) = (none, t')) : t'.isDirectory p = true := by
  rw [makeChain] at made
  split at made
  · cases made
    exact isDirectory_of_makeDir ‹_›
  · split at made
    · cases made
    · split at made
      · cases made
        exact isDirectory_of_makeDir ‹_›
      · simp only [Prod.mk.injEq] at made
        obtain ⟨fine, rfl⟩ := made
        simpa using fine
  · simp only [Prod.mk.injEq] at made
    obtain ⟨fine, rfl⟩ := made
    simpa using fine

/-! ## Writing, removing and renaming files -/

theorem writeFile_eq_ok {p : Path} {data : ByteArray} (written : t.writeFile p data = .ok t') :
    ∃ directory name, t.locate p = .ok ⟨directory, some name, false⟩ ∧
      t.node? (directory ++ [name]) ≠ some .directory ∧
      t' = t.set (directory ++ [name]) (.file data) := by
  rw [writeFile, bind_eq_ok_iff] at written
  obtain ⟨⟨directory, name?, slash⟩, found, written⟩ := written
  cases name? with
  | none => cases written
  | some name =>
    cases slash with
    | true => cases written
    | false =>
      simp only at written
      split at written
      · cases written
      · rename_i vacant
        cases written
        exact ⟨directory, name, found, vacant, rfl⟩

theorem writeFile_of_locate {p : Path} {directory : Location} {name : String}
    (found : t.locate p = .ok ⟨directory, some name, false⟩)
    (vacant : t.node? (directory ++ [name]) ≠ some .directory) (data : ByteArray) :
    t.writeFile p data = .ok (t.set (directory ++ [name]) (.file data)) := by
  rw [writeFile, found]
  -- The match takes its last branch, since `vacant` rules the other one out.
  simp only [bind, Except.bind]

theorem removeFile_eq_ok {p : Path} (removed : t.removeFile p = .ok t') :
    ∃ directory name slash data, t.locate p = .ok ⟨directory, some name, slash⟩ ∧
      t.node? (directory ++ [name]) = some (.file data) ∧ t' = t.erase (directory ++ [name]) := by
  rw [removeFile, bind_eq_ok_iff] at removed
  obtain ⟨⟨directory, name?, slash⟩, found, removed⟩ := removed
  cases name? with
  | none => cases removed
  | some name =>
    simp only at removed
    split at removed
    · cases removed
    · cases removed
    · rename_i data stands
      split at removed
      · cases removed
      · cases removed
        exact ⟨directory, name, slash, data, found, stands, rfl⟩

theorem removeFile_of_locate {p : Path} {directory : Location} {name : String} {data : ByteArray}
    (found : t.locate p = .ok ⟨directory, some name, false⟩)
    (stands : t.node? (directory ++ [name]) = some (.file data)) :
    t.removeFile p = .ok (t.erase (directory ++ [name])) := by
  rw [removeFile, found]
  simp only [bind, Except.bind, stands, Bool.false_eq_true, if_false]

theorem renameFile_eq_ok {source target : Path} (renamed : t.renameFile source target = .ok t') :
    ∃ data directory name slash directory' name', t.readFile source = .ok data ∧
      t.locate source = .ok ⟨directory, some name, slash⟩ ∧
      t.locate target = .ok ⟨directory', some name', false⟩ ∧
      t.node? (directory' ++ [name']) ≠ some .directory ∧
      t' = (t.erase (directory ++ [name])).set (directory' ++ [name']) (.file data) := by
  rw [renameFile, bind_eq_ok_iff] at renamed
  obtain ⟨data, read, renamed⟩ := renamed
  rw [bind_eq_ok_iff] at renamed
  obtain ⟨⟨directory, name?, slash⟩, found, renamed⟩ := renamed
  rw [bind_eq_ok_iff] at renamed
  obtain ⟨⟨directory', name?', slash'⟩, found', renamed⟩ := renamed
  cases name? with
  | none => cases renamed
  | some name =>
    cases name?' with
    | none => cases renamed
    | some name' =>
      cases slash' with
      | true => cases renamed
      | false =>
        simp only [Bool.false_eq_true, if_false] at renamed
        split at renamed
        · cases renamed
        · rename_i vacant
          cases renamed
          exact ⟨data, directory, name, slash, directory', name', read, found, found', vacant, rfl⟩

theorem renameFile_of_locate {source target : Path} {data : ByteArray}
    {directory directory' : Location} {name name' : String}
    (read : t.readFile source = .ok data)
    (found : t.locate source = .ok ⟨directory, some name, false⟩)
    (found' : t.locate target = .ok ⟨directory', some name', false⟩)
    (vacant : t.node? (directory' ++ [name']) ≠ some .directory) :
    t.renameFile source target =
      .ok ((t.erase (directory ++ [name])).set (directory' ++ [name']) (.file data)) := by
  rw [renameFile, read, found, found']
  simp only [bind, Except.bind, Bool.false_eq_true, if_false]

/-- What is written to a path is what the path leads to. -/
theorem stat_of_writeFile {p : Path} {data : ByteArray} (written : t.writeFile p data = .ok t') :
    t'.stat p = .ok (.file data) := by
  obtain ⟨directory, name, found, vacant, rfl⟩ := writeFile_eq_ok written
  have keeps := (alters_set (.file data) vacant (fun _ => True) trivial).keeps
  rw [stat_of_locate (locate_of_keeps keeps found), node?_set (not_start_of_node? vacant),
    if_pos rfl]
  rfl

theorem Rooted.writeFile (rooted : t.Rooted) {p : Path} {data : ByteArray}
    (written : t.writeFile p data = .ok t') : t'.Rooted := by
  obtain ⟨directory, name, found, vacant, rfl⟩ := writeFile_eq_ok written
  exact rooted.set (node?_of_locate found) vacant

theorem Rooted.removeFile (rooted : t.Rooted) {p : Path} (removed : t.removeFile p = .ok t') :
    t'.Rooted := by
  obtain ⟨directory, name, _, data, _, stands, rfl⟩ := removeFile_eq_ok removed
  exact rooted.erase (by simp [stands])

theorem Rooted.discard (rooted : t.Rooted) (p : Path) : (t.discard p).Rooted := by
  rw [FileTree.discard]
  split
  · exact rooted.removeFile ‹_›
  · exact rooted

theorem node?_of_readFile {p : Path} {data : ByteArray} {directory : Location} {name : String}
    {slash : Bool} (read : t.readFile p = .ok data)
    (found : t.locate p = .ok ⟨directory, some name, slash⟩) :
    t.node? (directory ++ [name]) = some (.file data) := by
  have seen := readFile_eq_ok_iff.mp read
  rw [stat_of_locate found] at seen
  split at seen
  · cases seen
  · cases seen
  · rename_i data' stands
    split at seen
    · cases seen
    · cases seen
      exact stands

theorem Rooted.renameFile (rooted : t.Rooted) {source target : Path}
    (renamed : t.renameFile source target = .ok t') : t'.Rooted := by
  obtain ⟨data, directory, name, slash, directory', name', read, found, found', vacant, rfl⟩ :=
    renameFile_eq_ok renamed
  have source_file := node?_of_readFile read found
  have free : t.node? (directory ++ [name]) ≠ some .directory := by simp [source_file]
  have erased := alters_erase free (fun _ => True) trivial
  -- The source is a file, so erasing it loses no directory on the way to the target.
  refine (rooted.erase free).set (erased.keeps.directories _ (node?_of_locate found')) ?_
  rw [node?_erase (not_start_of_node? free)]
  split
  · simp
  · exact vacant

end BlobDepot.FileTree
