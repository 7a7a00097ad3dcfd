import BlobDepot.Proofs.Archive.Blobs

/-! # What writes leave behind

A write that fails leaves every file as it was, but for one: the file beside its target, where
the bytes are put first.  If the write came so far, nothing stands there any more
(`files_write_error`).  Directories may have been made, all of them above the target
(`Mounted.makeDir_above`).

A write that succeeds leaves no file beside its target either.  So none of the names that
uploads use are found in an archive that had none of them before (`Mounted.dotFree_write`).
-/

namespace BlobDepot.Archive

open FileTree BlobKey

/-- The path at which the next write under a key puts its bytes first. -/
def beside (a : Archive) (key : String) : Path :=
  uploadPath (a.path key) a.nextUpload

/-- Whether a write under a key comes so far that it puts its bytes to the file beside its
    target. -/
def begins (a : Archive) (key : String) (data : ByteArray) : Bool :=
  match a.tree.makeDirs (a.path key).parent with
  | (some _, _) => false
  | (none, ready) => (ready.writeFile (a.beside key) data).toBool

/-- Nothing below a place has a name that starts with a dot. -/
def DotFree (base : Location) (t : FileTree) : Prop :=
  ∀ q, Inside base q → Dotted q → t.node? q = none

variable {a a' : Archive} {t t' : FileTree} {base : Location} {key : String} {data : ByteArray}

/-! ## A write that fails -/

theorem begins_of_unmade {e : Errno} {partly : FileTree}
    (made : a.tree.makeDirs (a.path key).parent = (some e, partly)) (data : ByteArray) :
    a.begins key data = false := by
  rw [begins, made]

theorem begins_of_made {ready : FileTree}
    (made : a.tree.makeDirs (a.path key).parent = (none, ready)) (data : ByteArray) :
    a.begins key data = (ready.writeFile (a.beside key) data).toBool := by
  rw [begins, made]

theorem files_write_error {f : Fault} (failed : a.write key data = (.error f, a')) :
    (a.begins key data = false → ∀ q, a'.tree.file? q = a.tree.file? q) ∧
      (a.begins key data = true → ∃ place, a'.tree.Belongs (a.beside key) place ∧
        ∀ q, a'.tree.file? q = if q = place then none else a.tree.file? q) := by
  have prepared := alters_makeDirs a.tree (a.path key).parent fun _ => False
  rw [write] at failed
  split at failed
  · -- The directories above the target could not all be made.
    rename_i e partly made
    cases failed
    rw [begins_of_unmade made]
    rw [made] at prepared
    exact ⟨fun _ q => prepared.file?_eq id, fun begun => by cases begun⟩
  · rename_i ready made
    rw [begins_of_made made]
    rw [made] at prepared
    split at failed
    · rename_i e tree uploaded
      cases failed
      obtain ⟨refused, rfl⟩ | ⟨directory, name, found, vacant, rfl⟩ := upload_eq_error uploaded
      · -- The file beside the target could not be written.
        rw [beside, refused]
        exact ⟨fun _ q => prepared.file?_eq id, fun begun => by cases begun⟩
      · -- It was written and removed again.
        rw [beside, writeFile_of_locate found vacant data]
        refine ⟨fun unbegun => (by cases unbegun), fun _ => ?_⟩
        have keeps := (alters_beside found vacant (.file data)).keeps
        refine ⟨_, ⟨directory, name, false, locate_of_keeps keeps found, rfl⟩, fun q => ?_⟩
        rw [← prepared.file?_eq id, FileTree.file?, FileTree.file?, node?_beside vacant]
        by_cases here : q = directory ++ [name]
        · rw [if_pos here, if_pos here]
        · rw [if_neg here, if_neg here]
    · cases failed

/-! ## Directories above the target -/

/-- Behind the root directory the path of a key goes on by the names of the key; its parent
    lacks the last one. -/
theorem above_path (a : Archive) (valid : Valid key) : ∃ front,
    (a.path key).trimmed.dropLast = front ++ (names key).dropLast ∧
      front.filter (· != "") = a.root.pieces.filter (· != "") := by
  obtain ⟨front, whole, _, same⟩ := path_eq a valid
  refine ⟨front, ?_, same⟩
  rw [trimmed_path a valid, whole, List.dropLast_append_of_ne_nil (names_ne_nil key)]

/-- A directory that is made on the way to the file of a key is one of those that the names
    of the key write. -/
theorem Mounted.makeDir_above (mounted : a.Mounted base) (valid : Valid key) {p : Path}
    (above : p ∈ (a.path key).parent.ancestors) (made : a.tree.makeDir p = .ok t') :
    ∃ m, m ≠ [] ∧ m <+: (names key).dropLast ∧ a.tree.node? (base ++ m) = none ∧
      t' = a.tree.set (base ++ m) .directory := by
  obtain ⟨directory, name, slash, found, vacant, rfl⟩ := makeDir_eq_ok made
  obtain ⟨front, shorter, same⟩ := above_path a valid
  have starts := Path.starts_of_mem_ancestors above
  have start := starts.pieces.trans (Path.parent_start_trimmed _)
  rw [shorter] at start
  have led : a.tree.walk p.absolute (front.filter (· != "")) = .ok ⟨base, .directory⟩ := by
    rw [starts.absolute, same]
    exact mounted.led valid
  by_cases passed : p.pieces <+: front
  · -- The way to the root directory is there, so nothing on it is made.
    obtain ⟨all, legible, _⟩ := locate_eq_ok_iff.mp found
    have there : a.tree.stat p = .ok .directory :=
      stat_of_starts (p := ⟨p.absolute, front⟩) led ⟨rfl, passed⟩ ⟨all, legible⟩
    rw [makeDir_of_directory there] at made
    cases made
  · obtain ⟨m, below⟩ : front <+: p.pieces :=
      (List.prefix_or_prefix_of_prefix start (List.prefix_append ..)).resolve_left passed
    rw [← below, List.prefix_append_right_inj] at start
    have nonempty : m ≠ [] := by
      rintro rfl
      rw [List.append_nil] at below
      exact passed (below ▸ List.prefix_rfl)
    have named : ∀ name ∈ m, name ∈ names key := fun name member =>
      (start.trans (List.dropLast_prefix _)).subset member
    have onward : p.pieces.filter (· != "") = front.filter (· != "") ++ m := by
      rw [← below, List.filter_append, Path.filter_of_isName fun name member =>
        isName_of_mem_names valid (named name member)]
    have site := site_onward led onward nonempty
      (fun name member => plain_of_mem_names valid (named name member)) found
    rw [site] at vacant ⊢
    exact ⟨m, nonempty, start, vacant, rfl⟩

/-- What making one of these directories keeps is kept until all are made. -/
theorem Mounted.makeDirs_keeps (mounted : a.Mounted base) (valid : Valid key) {P : FileTree → Prop}
    (keeps : ∀ {t : FileTree} {m : List String}, m ≠ [] → m <+: (names key).dropLast →
      ¬ base ++ m <+: t.home → P t → P (t.set (base ++ m) .directory)) (h : P a.tree) :
    P (a.tree.makeDirs (a.path key).parent).2 := by
  refine (makeChain_keeps (P := fun t => Mounted { a with tree := t } base ∧ P t)
    (fun above given made => ?_) ⟨mounted, h⟩).2
  obtain ⟨mounted, h⟩ := given
  obtain ⟨m, nonempty, start, vacant, rfl⟩ := mounted.makeDir_above valid above made
  simp only at vacant
  exact ⟨mounted.of_alters (alters_makeDir made fun _ => False) rfl,
    keeps nonempty start (not_start_of_node? (by simp [vacant])) h⟩

/-- Away from the way to the target nothing is made. -/
theorem Mounted.node?_makeDirs (mounted : a.Mounted base) (valid : Valid key) {q : Location}
    (apart : ¬ q <+: base ++ (names key).dropLast) :
    (a.tree.makeDirs (a.path key).parent).2.node? q = a.tree.node? q := by
  refine mounted.makeDirs_keeps valid (P := fun t => t.node? q = a.tree.node? q)
    (fun {t m} nonempty start outside same => ?_) rfl
  rw [node?_set outside, if_neg, same]
  rintro rfl
  exact apart ((List.prefix_append_right_inj base).mpr start)

/-! ## Names that start with a dot -/

/-- In a directory that is all there is, nothing stands. -/
theorem node?_single {name : String} {q : Location} (inside : Inside [name] q) :
    (FileTree.empty.set [name] .directory).node? q = none := by
  obtain ⟨rest, nonempty, rfl⟩ := inside
  rw [node?_set (by simp [FileTree.empty]), if_neg (by simpa using nonempty)]
  exact node?_bare (by simp)

theorem rooted_single (name : String) : (FileTree.empty.set [name] .directory).Rooted :=
  Rooted.set rooted_empty (node?_nil _) (by simp [FileTree.empty, node?_bare])

theorem dotFree_single (name : String) :
    DotFree [name] (FileTree.empty.set [name] .directory) :=
  fun _ inside _ => node?_single inside

/-- What is put to a place whose last name starts with no dot adds no name that does. -/
theorem DotFree.set (free : DotFree base t) {place : Location} (outside : ¬ place <+: t.home)
    (undotted : ¬ Dotted place) (node : Node) : DotFree base (t.set place node) := by
  intro q inside dotted
  have other : q ≠ place := by
    rintro rfl
    exact undotted dotted
  rw [node?_set outside, if_neg other]
  exact free q inside dotted

theorem DotFree.beside (free : DotFree base t) {place : Location}
    (vacant : t.node? place ≠ some .directory) (node : Node) :
    DotFree base ((t.set place node).erase place) := by
  intro q inside dotted
  rw [node?_beside vacant]
  split
  · rfl
  · exact free q inside dotted

theorem Mounted.dotFree_makeDirs (mounted : a.Mounted base) (valid : Valid key)
    (free : DotFree base a.tree) : DotFree base (a.tree.makeDirs (a.path key).parent).2 :=
  mounted.makeDirs_keeps valid (fun nonempty start outside free => free.set outside
    (not_dotted_start valid nonempty (start.trans (List.dropLast_prefix _)) base) _) free

/-- A write leaves no name that starts with a dot behind, whether it fails or not. -/
theorem Mounted.dotFree_write (mounted : a.Mounted base) (valid : Valid key)
    (free : DotFree base a.tree) (data : ByteArray) : DotFree base (a.write key data).2.tree := by
  have prepared := mounted.dotFree_makeDirs valid free
  have alters := alters_makeDirs a.tree (a.path key).parent fun _ => False
  rw [write]
  split
  · rename_i e partly made
    rwa [made] at prepared
  · rename_i ready made
    rw [made] at prepared alters
    split
    · rename_i e tree uploaded
      obtain ⟨_, rfl⟩ | ⟨directory, name, _, vacant, rfl⟩ := upload_eq_error uploaded
      · exact prepared
      · exact prepared.beside vacant _
    · rename_i tree uploaded
      obtain ⟨directory, name, directory', name', _, vacant, found, vacant', rfl⟩ :=
        upload_eq_ok_iff.mp uploaded
      have mounted' : Mounted { a with tree := ready } base := mounted.of_alters alters rfl
      have site := mounted'.site_of_locate valid found
      have undotted := not_dotted_names valid base
      rw [← site] at undotted
      have outside : ¬ directory' ++ [name'] <+: ready.home := not_start_of_node? vacant'
      exact (prepared.beside vacant _).set outside undotted _

end BlobDepot.Archive
