import BlobDepot.Proofs.Archive.Uploads
import BlobDepot.Proofs.FileTree.Onward

/-! # The blobs of an archive

`Archive.blob?` is the view of an archive as a map from keys to bytes: the file to which
the path of the key leads.  A write that succeeds sets the map at its key and alters no file
elsewhere, but for those at dotted places (`Mounted.write_ok`), and one that fails alters
none at all but those (`alters_write_error`).  Where no file is altered, a blob that is there
stays (`Mounted.blob?_of_alters`), and in a rooted tree no blob appears either
(`Mounted.blob?_alters_iff`).

All of this is about archives whose root directory is there.  Opening an archive brings
that about, and it alters no file (`openAt_ok`).
-/

namespace BlobDepot.Archive

open FileTree BlobKey

/-- The root directory of the archive is there and stands at `base`. -/
def Mounted (a : Archive) (base : Location) : Prop :=
  a.tree.walk a.root.absolute (a.root.pieces.filter (· != "")) = .ok ⟨base, .directory⟩

/-- The bytes of the file to which the path of a key leads. -/
def blob? (a : Archive) (key : String) : Option ByteArray :=
  match a.tree.stat (a.path key) with
  | .ok (.file data) => some data
  | _ => none

variable {a a' : Archive} {base : Location} {key k : String} {data : ByteArray}

theorem blob?_eq_some_iff : a.blob? key = some data ↔ a.tree.stat (a.path key) = .ok (.file data) := by
  rw [blob?]
  split
  · rename_i bytes seen
    rw [seen]
    simp
  · rename_i other
    constructor
    · intro h
      cases h
    · intro h
      exact absurd h (other data)

/-- A read tells what the path of the key leads to, a directory being no blob. -/
theorem read_eq (a : Archive) (key : String) :
    a.read key = match a.tree.stat (a.path key) with
      | .ok (.file data) => .ok (some data)
      | .ok .directory | .error .noSuchEntry => .ok none
      | .error e => .error e.fault := by
  rw [read, readFile, isDirectory]
  cases a.tree.stat (a.path key) with
  | ok node => cases node <;> rfl
  | error e => cases e <;> rfl

theorem read_eq_ok_some_iff : a.read key = .ok (some data) ↔ a.blob? key = some data := by
  rw [blob?_eq_some_iff, read_eq]
  cases a.tree.stat (a.path key) with
  | ok node => cases node <;> simp
  | error e => cases e <;> simp

/-- A read only fails because the file tree refuses something. -/
theorem exists_errno_of_read_error {f : Fault} (failed : a.read key = .error f) :
    ∃ e : Errno, f = e.fault := by
  rw [read_eq] at failed
  split at failed
  · cases failed
  · cases failed
  · cases failed
  · rename_i e _ _
    cases failed
    exact ⟨e, rfl⟩

/-! ## Paths of keys -/

theorem path_of_root (root : a'.root = a.root) (key : String) : a'.path key = a.path key := by
  rw [path, path, root]

/-- The path of a key is that of the root directory, less a slash at its end, and the names
    of the key behind it. -/
theorem exists_path (a : Archive) (valid : Valid key) :
    ∃ front, a.path key = ⟨a.root.absolute, front ++ names key⟩ ∧
      (front = a.root.pieces ∨ front ++ [""] = a.root.pieces) := by
  rw [path, ofString_eq valid]
  exact Path.exists_join rfl (names_ne_nil key) a.root

theorem path_eq (a : Archive) (valid : Valid key) :
    ∃ front, a.path key = ⟨a.root.absolute, front ++ names key⟩ ∧ front <+: a.root.pieces ∧
      front.filter (· != "") = a.root.pieces.filter (· != "") := by
  obtain ⟨front, whole, rfl | slash⟩ := exists_path a valid
  · exact ⟨_, whole, List.prefix_rfl, rfl⟩
  · rw [← slash]
    exact ⟨front, whole, List.prefix_append front [""], by simp⟩

@[simp] theorem absolute_path (a : Archive) (valid : Valid key) :
    (a.path key).absolute = a.root.absolute := by
  obtain ⟨front, whole, _⟩ := path_eq a valid
  rw [whole]

theorem filter_path (a : Archive) (valid : Valid key) :
    (a.path key).pieces.filter (· != "") = a.root.pieces.filter (· != "") ++ names key := by
  obtain ⟨front, whole, _, same⟩ := path_eq a valid
  rw [whole, List.filter_append, same, filter_names valid]

theorem getLast?_path (a : Archive) (valid : Valid key) :
    (a.path key).pieces.getLast? = (names key).getLast? := by
  obtain ⟨front, whole, _⟩ := path_eq a valid
  rw [whole, List.getLast?_append_of_ne_nil front (names_ne_nil key)]

theorem path_ends_in_name (a : Archive) (valid : Valid key) : ∃ last ∈ names key,
    (a.path key).pieces.getLast? = some last ∧ Path.isName last = true := by
  obtain ⟨last, member, final⟩ := exists_last_name key
  exact ⟨last, member, by rw [getLast?_path a valid, final], isName_of_mem_names valid member⟩

theorem path_ends_unslashed (a : Archive) (valid : Valid key) :
    (a.path key).pieces.getLast? ≠ some "" := by
  obtain ⟨last, member, final, _⟩ := path_ends_in_name a valid
  rw [final]
  simpa using ne_empty_of_mem_names valid member

theorem trimmed_path (a : Archive) (valid : Valid key) : (a.path key).trimmed = (a.path key).pieces := by
  obtain ⟨last, _, final, named⟩ := path_ends_in_name a valid
  exact Path.trimmed_of_isName final named

theorem fileName?_path (a : Archive) (valid : Valid key) :
    (a.path key).fileName? = (names key).getLast? := by
  rw [Path.fileName?, trimmed_path a valid, getLast?_path a valid]
  obtain ⟨last, member, final, _⟩ := path_ends_in_name a valid
  rw [← getLast?_path a valid, final, Option.filter_some]
  simp [(plain_of_mem_names valid member).2]

/-- The path of a key is read from where the path of the root directory is. -/
theorem Mounted.led (mounted : a.Mounted base) (valid : Valid key) :
    a.tree.walk (a.path key).absolute (a.root.pieces.filter (· != "")) =
      .ok ⟨base, .directory⟩ := by
  rw [absolute_path a valid]
  exact mounted

theorem Mounted.walk_path (mounted : a.Mounted base) (valid : Valid key) :
    a.tree.walk (a.path key).absolute ((a.path key).pieces.filter (· != "")) =
      a.tree.walkFrom ⟨base, .directory⟩ (names key) :=
  walk_onward (mounted.led valid) (filter_path a valid)

/-- A blob is the file at the place that the names of its key write, if the way there by
    these names is open and the path is one that can be looked up at all. -/
theorem Mounted.blob?_eq_some_iff (mounted : a.Mounted base) (valid : Valid key) :
    a.blob? key = some data ↔ (∃ found, namesOf (a.path key) = .ok found) ∧
      a.tree.walkFrom ⟨base, .directory⟩ (names key) = .ok ⟨base ++ names key, .file data⟩ := by
  rw [Archive.blob?_eq_some_iff, stat_eq_file_iff]
  constructor
  · intro given
    obtain ⟨_, found, legible, place, led⟩ := given
    rw [namesOf_eq_ok legible, mounted.walk_path valid] at led
    have place_eq := (place_of_walkFrom (fun _ => plain_of_mem_names valid) led).1
    simp only at place_eq
    subst place_eq
    exact ⟨⟨found, legible⟩, led⟩
  · intro given
    obtain ⟨⟨found, legible⟩, led⟩ := given
    rw [← mounted.walk_path valid, ← namesOf_eq_ok legible] at led
    exact ⟨path_ends_unslashed a valid, found, legible, _, led⟩

theorem Mounted.site_of_locate (mounted : a.Mounted base) (valid : Valid key)
    {directory : Location} {name : String} {slash : Bool}
    (found : a.tree.locate (a.path key) = .ok ⟨directory, some name, slash⟩) :
    directory ++ [name] = base ++ names key :=
  site_onward (mounted.led valid) (filter_path a valid) (names_ne_nil key)
    (fun _ => plain_of_mem_names valid) found

/-! ## What stays -/

theorem Mounted.of_alters (mounted : a.Mounted base) {S : Location → Prop}
    (alters : Alters S a.tree a'.tree) (root : a'.root = a.root) : a'.Mounted base := by
  rw [Mounted, root]
  exact walk_of_keeps alters.keeps mounted rfl

theorem Mounted.blob?_of_alters (mounted : a.Mounted base) (valid : Valid k)
    {S : Location → Prop} (alters : Alters S a.tree a'.tree) (root : a'.root = a.root)
    (outside : ¬ S (base ++ names k)) (stored : a.blob? k = some data) :
    a'.blob? k = some data := by
  obtain ⟨legible, led⟩ := (mounted.blob?_eq_some_iff valid).mp stored
  refine ((mounted.of_alters alters root).blob?_eq_some_iff valid).mpr ⟨?_, ?_⟩
  · rwa [path, root]
  · have stands := node?_of_walkFrom (node?_of_walk mounted) led
    exact walkFrom_file_of_keeps alters.keeps (fun _ => plain_of_mem_names valid) (names_ne_nil k)
      led ((alters.files _ data outside).mpr stands)

/-- No blob appears where the place is not altered, since in a rooted tree no directory
    on the way to a file can have been missing. -/
theorem Mounted.blob?_alters_iff (mounted : a.Mounted base) (rooted : a.tree.Rooted)
    (valid : Valid k) {S : Location → Prop} (alters : Alters S a.tree a'.tree)
    (root : a'.root = a.root) (outside : ¬ S (base ++ names k)) :
    a'.blob? k = some data ↔ a.blob? k = some data := by
  refine ⟨fun stored => ?_, mounted.blob?_of_alters valid alters root outside⟩
  have mounted' := mounted.of_alters alters root
  obtain ⟨legible, led⟩ := (mounted'.blob?_eq_some_iff valid).mp stored
  rw [path, root] at legible
  have plain : ∀ name ∈ names k, Plain name := fun _ => plain_of_mem_names valid
  have stands := node?_of_walkFrom (node?_of_walk mounted') led
  exact (mounted.blob?_eq_some_iff valid).mpr ⟨legible,
    rooted.walkFrom (node?_of_walk mounted) plain (place_of_walkFrom plain led).2
      ((alters.files _ data outside).mp stands)⟩

/-! ## Writing -/

/-- What a failed write leaves behind: perhaps directories, perhaps a file at a dotted
    place, but every blob as it was. -/
theorem alters_write_error {f : Fault} (failed : a.write key data = (.error f, a')) :
    Alters Dotted a.tree a'.tree ∧ a'.root = a.root := by
  have prepared := alters_makeDirs a.tree (a.path key).parent Dotted
  rw [write] at failed
  split at failed
  · rename_i e partly made
    cases failed
    rw [made] at prepared
    exact ⟨prepared, rfl⟩
  · rename_i ready made
    rw [made] at prepared
    split at failed
    · rename_i e tree uploaded
      cases failed
      exact ⟨prepared.trans (alters_upload_error uploaded), rfl⟩
    · cases failed

theorem Mounted.write_ok (mounted : a.Mounted base) (valid : Valid key)
    (stored : a.write key data = (.ok (), a')) :
    Alters (fun q => Dotted q ∨ q = base ++ names key) a.tree a'.tree ∧ a'.root = a.root ∧
      a'.blob? key = some data := by
  have prepared := alters_makeDirs a.tree (a.path key).parent
  rw [write] at stored
  split at stored
  · cases stored
  · rename_i ready made
    rw [made] at prepared
    split at stored
    · cases stored
    · rename_i tree uploaded
      cases stored
      obtain ⟨directory, name, found, seen, alters⟩ := upload_ok uploaded
      have mounted' : Mounted { a with tree, nextUpload := a.nextUpload + 1 } base :=
        mounted.of_alters ((prepared _).trans alters) rfl
      -- The site at which the file was renamed is the place of the key.
      have site := mounted'.site_of_locate valid found
      rw [site] at alters
      exact ⟨(prepared _).trans alters, rfl, Archive.blob?_eq_some_iff.mpr seen⟩

/-- The root directory stays where it is, whether a write fails or not. -/
theorem Mounted.after_write (mounted : a.Mounted base) (valid : Valid key) (data : ByteArray) :
    (a.write key data).2.Mounted base ∧ (a.write key data).2.root = a.root := by
  cases written : a.write key data with
  | mk result a' =>
    cases result with
    | error f =>
      obtain ⟨alters, root⟩ := alters_write_error written
      exact ⟨mounted.of_alters alters root, root⟩
    | ok done =>
      obtain ⟨alters, root, _⟩ := mounted.write_ok valid written
      exact ⟨mounted.of_alters alters root, root⟩

/-- A write only fails because the file tree refuses something. -/
theorem exists_errno_of_write_error {f : Fault} (failed : (a.write key data).1 = .error f) :
    ∃ e : Errno, f = e.fault := by
  rw [write] at failed
  split at failed
  · rename_i e partly made
    cases failed
    exact ⟨e, rfl⟩
  · split at failed
    · rename_i e tree uploaded
      cases failed
      exact ⟨e, rfl⟩
    · cases failed

theorem rooted_write (rooted : a.tree.Rooted) (key : String) (data : ByteArray) :
    (a.write key data).2.tree.Rooted := by
  have prepared := rooted.makeDirs (a.path key).parent
  rw [write]
  split
  · rename_i e partly made
    rwa [made] at prepared
  · rename_i ready made
    rw [made] at prepared
    have uploaded := rooted_upload prepared (a.path key) a.nextUpload data
    split <;> simp_all

/-! ## Opening -/

/-- An archive is opened once its root directory is there. -/
theorem stat_of_openAt {root : Path} {t : FileTree} (opened : (openAt root t).result = .ok a) :
    root.pieces = [] ∨ a.tree.stat root = .ok .directory := by
  rw [openAt] at opened
  simp only at opened
  split at opened
  · rename_i seen
    cases opened
    exact .inr seen
  · cases opened
  · split at opened
    · rename_i made done
      cases opened
      refine or_iff_not_imp_left.mpr fun bare => ?_
      rw [makeDirs, Path.ancestors, if_neg bare] at done
      exact isDirectory_iff.mp (isDirectory_of_makeChain done)
    · cases opened
  · cases opened

/-- Opening an archive brings its root directory about and leaves every file as it is. -/
theorem openAt_ok {root : Path} {t : FileTree} (opened : (openAt root t).result = .ok a) :
    a.root = root ∧ (∃ base, a.Mounted base) ∧ Alters (fun _ => False) t a.tree := by
  have altered : a.root = root ∧ Alters (fun _ => False) t a.tree := by
    have alters := alters_makeDirs t root fun _ => False
    rw [openAt] at opened
    simp only at opened
    split at opened
    · -- The directory was there already.
      cases opened
      exact ⟨rfl, .refl _ _⟩
    · cases opened
    · -- The directory was missing and could be made.
      split at opened
      · rename_i made done
        cases opened
        rw [done] at alters
        exact ⟨rfl, alters⟩
      · cases opened
    · cases opened
  obtain ⟨same, alters⟩ := altered
  refine ⟨same, ?_, alters⟩
  obtain bare | there := stat_of_openAt opened
  · exact ⟨a.tree.origin root.absolute, by simp [Mounted, same, bare, walk]⟩
  · obtain ⟨all, legible, place, led⟩ := stat_eq_directory_iff.mp there
    rw [namesOf_eq_ok legible] at led
    exact ⟨place, by rw [Mounted, same, led]⟩

/-- The root directory is given by a path that can be looked up. -/
theorem hasNul_of_openAt {root : Path} {t : FileTree} (opened : (openAt root t).result = .ok a) :
    root.hasNul = false := by
  obtain bare | there := stat_of_openAt opened
  · simp [Path.hasNul, bare]
  · obtain ⟨all, legible, _⟩ := stat_eq_directory_iff.mp there
    exact (legible_iff.mp ⟨all, legible⟩).1

/-- Where the top is the working directory, a directory in it is found by its name, however
    many slashes follow. -/
theorem mounted_of_kept {name : String} (home : a.tree.home = [])
    (kept : a.root.pieces.filter (· != "") = [name]) (plain : Plain name)
    (short : name.utf8ByteSize ≤ maxNameBytes)
    (there : a.tree.node? [name] = some .directory) : a.Mounted [name] := by
  have origin : a.tree.origin a.root.absolute = [] := by
    rw [FileTree.origin, home, ite_self]
  have found : a.tree.find ([] ++ [name]) = .ok ⟨[name], .directory⟩ :=
    find_eq_ok_iff.mpr ⟨rfl, there⟩
  rw [Mounted, kept, walk, origin, walkFrom_cons, follow_plain plain,
    if_neg (Nat.not_lt.mpr short), found]
  rfl

/-- The root directory of most examples. -/
theorem mounted_data {t : FileTree} (home : t.home = [])
    (there : t.node? ["data"] = some .directory) (number : Nat) :
    Mounted ⟨t, .ofString "data", number⟩ ["data"] :=
  have kept : (Path.ofString "data").pieces.filter (· != "") = ["data"] := by decide +kernel
  mounted_of_kept home kept ⟨by decide, by decide⟩ (by decide) there

theorem rooted_openAt {root : Path} {t : FileTree} (rooted : t.Rooted)
    (opened : (openAt root t).result = .ok a) : a.tree.Rooted := by
  have prepared := rooted.makeDirs root
  rw [openAt] at opened
  simp only at opened
  split at opened
  · cases opened
    exact rooted
  · cases opened
  · split at opened
    · rename_i made done
      cases opened
      rwa [done] at prepared
    · cases opened
  · cases opened

end BlobDepot.Archive
