import BlobDepot.Proofs.Archive.Room

/-! # The effect of a write

What a write needs of the tree, and what it makes of it, whatever else stands there.  Three
steps look at the tree: the directories above the target are made, the bytes are put to a file
beside the target, and that file is renamed.  What all of them need together is `Receives`, and
a write succeeds exactly if it is given.  Then the whole tree is known place by place
(`Settled.write_decided`).
-/

namespace BlobDepot.Archive

open FileTree BlobKey

/-- The place beside that of a key to which the upload with a given number puts its bytes
    first. -/
def besidePlace (base : Location) (key : String) (number : Nat) : Location :=
  base ++ (names key).dropLast ++
    ["." ++ (names key).getLast (names_ne_nil key) ++ "." ++ toString number ++ ".partial"]

/-- All that the next write under a key needs. -/
structure Receives (a : Archive) (base : Location) (key : String) : Prop where
  clear : a.Clear base key
  short : ∀ name ∈ (names key).dropLast, name.utf8ByteSize ≤ maxNameBytes
  fits : a.Fits key
  vacant : a.tree.node? (besidePlace base key a.nextUpload) ≠ some .directory

variable {a a' : Archive} {t' : FileTree} {base : Location} {key : String} {data : ByteArray}

/-! ## Places -/

theorem besidePlace_eq (a : Archive) (valid : Valid key) (base : Location) (number : Nat) :
    besidePlace base key number =
      base ++ (names key).dropLast ++ [besideName (a.path key) number] := by
  rw [besidePlace, besideName, fileName?_path a valid,
    List.getLast?_eq_some_getLast (names_ne_nil key), Option.getD_some]

/-- What stands above the target stands on the way to it. -/
theorem start_of_split {front back : List String} (split : names key = front ++ back)
    (nonempty : back ≠ []) : base ++ front <+: base ++ (names key).dropLast := by
  rw [split, List.dropLast_append_of_ne_nil nonempty, List.prefix_append_right_inj]
  exact List.prefix_append front back.dropLast

/-! ## Directories that were made -/

/-- The directory above the target is the place of all names of the key but the last. -/
theorem Mounted.place_of_walk_parent (mounted : a.Mounted base) (valid : Valid key)
    {place : Location}
    (led : a.tree.walk (a.path key).absolute ((a.path key).parent.pieces.filter (· != "")) =
      .ok ⟨place, .directory⟩) :
    place = base ++ (names key).dropLast :=
  (place_of_walkFrom (fun _ member => plain_of_mem_names valid (mem_names_of_dropLast member))
    ((mounted.walk_parent_iff valid).mp led)).1

theorem Mounted.above_of_made (mounted : a.Mounted base) (valid : Valid key) {ready : FileTree}
    (made : a.tree.makeDirs (a.path key).parent = (none, ready)) :
    ready.node? (base ++ (names key).dropLast) = some .directory := by
  have alters := alters_makeDirs a.tree (a.path key).parent fun _ => False
  have there : (a.path key).parent.pieces = [] ∨ ready.isDirectory (a.path key).parent = true := by
    rw [or_iff_not_imp_left]
    intro some_piece
    rw [makeDirs, Path.ancestors, if_neg some_piece] at made
    exact isDirectory_of_makeChain made
  rw [made] at alters
  have mounted' : Mounted { a with tree := ready } base := mounted.of_alters alters rfl
  obtain ⟨place, led⟩ : ∃ place, ready.walk (a.path key).absolute
      ((a.path key).parent.pieces.filter (· != "")) = .ok ⟨place, .directory⟩ := by
    obtain bare | there := there
    · exact ⟨ready.origin (a.path key).absolute, by rw [bare]; rfl⟩
    · obtain ⟨all, legible, place, led⟩ := stat_eq_directory_iff.mp (isDirectory_iff.mp there)
      exact ⟨place, namesOf_eq_ok legible ▸ led⟩
  rw [← mounted'.place_of_walk_parent valid led]
  exact node?_of_walk led

/-- What stands once the directories above a target are made. -/
theorem Settled.node?_made (settled : a.Settled base) (valid : Valid key) {ready : FileTree}
    (made : a.tree.makeDirs (a.path key).parent = (none, ready)) (q : Location) :
    ready.node? q =
      if q <+: base ++ (names key).dropLast then some .directory else a.tree.node? q := by
  have above := settled.mounted.above_of_made valid made
  by_cases way : q <+: base ++ (names key).dropLast
  · rw [if_pos way]
    exact (settled.of_made made).rooted.directory_of_start above way
  · have kept := settled.mounted.node?_makeDirs valid way
    rw [made] at kept
    rw [if_neg way]
    exact kept

/-- The directories above a target can be made exactly if their paths can be looked up and no
    blob is in the way. -/
theorem Settled.made_iff (settled : a.Settled base) (valid : Valid key) :
    (a.tree.makeDirs (a.path key).parent).1 = none ↔
      (∀ p ∈ (a.path key).parent.ancestors, ∃ all, namesOf p = .ok all) ∧ a.Unblocked base key := by
  constructor
  · intro done
    have made : a.tree.makeDirs (a.path key).parent = (none, _) := Prod.ext done rfl
    refine ⟨?_, fun front back split _ nonempty => ?_⟩
    · rw [makeDirs, Path.ancestors_parent] at made
      rw [Path.ancestors_parent]
      exact legible_of_makeChain made
    · -- A file in the way would be there still.
      have alters := alters_makeDirs a.tree (a.path key).parent fun _ => False
      rw [← alters.file?_eq id, file?, settled.node?_made valid made,
        if_pos (start_of_split split nonempty)]
  · rintro ⟨legible, unblocked⟩
    obtain ⟨ready, made, -⟩ := settled.makeDirs_of_unblocked valid unblocked legible
    rw [made]

/-! ## A write that succeeds -/

theorem Mounted.site_of_locate_uploadPath (mounted : a.Mounted base) (valid : Valid key)
    {number : Nat} {directory : Location} {name : String} {slash : Bool}
    (found : a.tree.locate (uploadPath (a.path key) number) = .ok ⟨directory, some name, slash⟩) :
    directory ++ [name] = besidePlace base key number := by
  obtain ⟨rfl, -⟩ := name_of_locate_uploadPath found
  obtain ⟨all, legible, walked, -⟩ := locate_eq_ok_iff.mp found
  rw [names_uploadPath a valid legible, List.dropLast_concat, uploadPath_eq a valid,
    ← absolute_path a valid] at walked
  rw [mounted.place_of_walk_parent valid walked, besidePlace_eq a valid]

/-- The two sites of an upload under a key, and what it puts there. -/
theorem Mounted.places_of_upload (mounted : a.Mounted base) (valid : Valid key)
    (done : upload a.tree (a.path key) a.nextUpload data = (none, t')) :
    a.tree.node? (besidePlace base key a.nextUpload) ≠ some .directory ∧
      a.tree.node? (base ++ names key) ≠ some .directory ∧
      ∀ q, t'.node? q = if q = base ++ names key then some (.file data)
        else if q = besidePlace base key a.nextUpload then none else a.tree.node? q := by
  obtain ⟨directory, name, directory', name', found, vacant, found', free, rfl⟩ :=
    upload_eq_ok_iff.mp done
  have site := mounted.site_of_locate_uploadPath valid found
  have site' := mounted.site_of_locate valid found'
  refine ⟨site ▸ vacant, site' ▸ free, fun q => ?_⟩
  have outside : ¬ directory' ++ [name'] <+: a.tree.home := not_start_of_node? free
  rw [node?_set (t := (a.tree.set _ _).erase _) outside, node?_beside vacant, site, site']

/-- A write that succeeds made the directories above the target and uploaded its bytes. -/
theorem exists_upload_of_write (stored : a.write key data = (.ok (), a')) :
    ∃ ready, a.tree.makeDirs (a.path key).parent = (none, ready) ∧
      upload ready (a.path key) a.nextUpload data = (none, a'.tree) := by
  rw [write] at stored
  split at stored
  · cases stored
  · rename_i ready made
    split at stored
    · cases stored
    · rename_i tree uploaded
      cases stored
      exact ⟨ready, made, uploaded⟩

theorem Settled.write_eq_ok_iff_receives (settled : a.Settled base) (valid : Valid key)
    (data : ByteArray) : (a.write key data).1 = .ok () ↔ a.Receives base key := by
  constructor
  · intro stored
    obtain ⟨ready, made, uploaded⟩ := exists_upload_of_write (Prod.ext stored rfl)
    have keeps := (alters_makeDirs a.tree (a.path key).parent fun _ => False).keeps
    rw [made] at keeps
    obtain ⟨-, unblocked⟩ := (settled.made_iff valid).mp (by rw [made])
    obtain ⟨vacant, free, -⟩ := (settled.of_made made).mounted.places_of_upload valid uploaded
    -- No directory got lost before the sites were found.
    exact ⟨⟨unblocked, fun stands => free (keeps.directories _ stands)⟩,
      fun name => size_of_mem_dropLast valid, fits_of_write valid stored,
      fun stands => vacant (keeps.directories _ stands)⟩
  · intro receives
    have vacant := receives.vacant
    rw [besidePlace_eq a valid] at vacant
    exact settled.write_of_vacant valid receives.clear receives.fits vacant data

theorem Settled.node?_write (settled : a.Settled base) (valid : Valid key)
    (stored : (a.write key data).1 = .ok ()) (q : Location) :
    (a.write key data).2.tree.node? q =
      if q = base ++ names key then some (.file data)
      else if q = besidePlace base key a.nextUpload then none
      else if q <+: base ++ (names key).dropLast then some .directory
      else a.tree.node? q := by
  obtain ⟨ready, made, uploaded⟩ := exists_upload_of_write (Prod.ext stored rfl)
  obtain ⟨-, -, nodes⟩ := (settled.of_made made).mounted.places_of_upload valid uploaded
  rw [nodes, settled.node?_made valid made]

/-- A write succeeds exactly if it has all that it needs.  Then the directories above its target
    are there, its bytes are at the target, nothing is beside it, and everything else is as it
    was; and the bytes are what is read. -/
theorem Settled.write_decided (settled : a.Settled base) (valid : Valid key) (data : ByteArray) :
    ((a.write key data).1 = .ok () ↔ a.Receives base key) ∧
      ((a.write key data).1 = .ok () →
        (∀ q, (a.write key data).2.tree.node? q =
          if q = base ++ names key then some (.file data)
          else if q = besidePlace base key a.nextUpload then none
          else if q <+: base ++ (names key).dropLast then some .directory
          else a.tree.node? q) ∧
        (a.write key data).2.read key = .ok (some data)) := by
  refine ⟨settled.write_eq_ok_iff_receives valid data, fun stored => ?_⟩
  have whole : a.write key data = (.ok (), (a.write key data).2) := Prod.ext stored rfl
  obtain ⟨-, -, found⟩ := settled.mounted.write_ok valid whole
  exact ⟨settled.node?_write valid stored, read_eq_ok_some_iff.mpr found⟩

/-- A write under a key of two names, beside whose target another upload left a file. -/
theorem Settled.write_decided_of_planted :
    let bare := FileTree.empty.set ["data"] .directory
    let t := (bare.set ["data", "b"] .directory).set ["data", "b", ".c.3.partial"] (.file ⟨#[7]⟩)
    let a : Archive := ⟨t, .ofString "data", 3⟩
    a.Settled ["data"] ∧ Valid "b/c" ∧ a.Receives ["data"] "b/c" ∧
      (∀ q, (a.write "b/c" ⟨#[1]⟩).2.tree.node? q =
        if q = ["data", "b", "c"] then some (.file ⟨#[1]⟩)
        else if q = ["data", "b", ".c.3.partial"] then none
        else if q <+: ["data", "b"] then some .directory
        else a.tree.node? q) ∧
      (a.write "b/c" ⟨#[1]⟩).2.read "b/c" = .ok (some ⟨#[1]⟩) := by
  intro bare t a
  have rooted := rooted_single "data"
  have rooted : (bare.set (["data"] ++ ["b"]) .directory).Rooted :=
    rooted.set (by decide +kernel) (by decide +kernel)
  have rooted : ((bare.set ["data", "b"] .directory).set (["data", "b"] ++ [".c.3.partial"])
      (.file ⟨#[7]⟩)).Rooted :=
    rooted.set (by decide +kernel) (by decide +kernel)
  have mounted : a.Mounted ["data"] := mounted_data rfl (by decide +kernel) _
  have settled : a.Settled ["data"] := ⟨mounted, rooted, by decide +kernel⟩
  have valid : Valid "b/c" := by decide +kernel
  have decided := settled.write_decided valid ⟨#[1]⟩
  have stored : (a.write "b/c" ⟨#[1]⟩).1 = .ok () := by decide +kernel
  have target : ["data"] ++ names "b/c" = ["data", "b", "c"] := by decide +kernel
  have way : ["data"] ++ (names "b/c").dropLast = ["data", "b"] := by decide +kernel
  have beside : besidePlace ["data"] "b/c" a.nextUpload = ["data", "b", ".c.3.partial"] := by
    decide +kernel
  rw [target, way, beside] at decided
  exact ⟨settled, valid, decided.1.mp stored, decided.2 stored⟩

theorem byteSize_join_slashes (key name : String) (n : Nat) :
    (Path.join ⟨false, name :: List.replicate (n + 1) ""⟩ ⟨false, [key]⟩).byteSize =
      name.utf8ByteSize + (n + 1) + key.utf8ByteSize := by
  have split : name :: List.replicate (n + 1) "" = (name :: List.replicate n "") ++ [""] := by
    rw [List.replicate_succ', List.cons_append]
  have some_piece := List.append_ne_nil_of_right_ne_nil (name :: List.replicate n "")
    (List.cons_ne_nil "" [])
  rw [Path.join]
  simp only [split, List.getLast?_concat, List.dropLast_concat, if_true, if_false,
    Bool.false_eq_true, some_piece, List.cons_ne_nil, Path.byteSize]
  rw [← List.sum_eq_foldr]
  simp
  omega

/-- A short name in a clear place, behind so many slashes that the path is too long. -/
theorem write_fails_behind_slashes :
    let a : Archive := ⟨FileTree.empty.set ["data"] .directory,
      ⟨false, "data" :: List.replicate 3900 ""⟩, 0⟩
    let key := String.ofList (List.replicate 200 'x')
    a.Settled ["data"] ∧ Valid key ∧ names key = [key] ∧
      key.utf8ByteSize + (toString a.nextUpload).utf8ByteSize ≤ 245 ∧ a.Clear ["data"] key ∧
      a.tree.node? (besidePlace ["data"] key a.nextUpload) ≠ some .directory ∧
      (a.write key ⟨#[1]⟩).1 ≠ .ok () := by
  intro a key
  obtain ⟨valid, names_eq⟩ : Valid key ∧ names key = [key] :=
    valid_replicate (by decide) (by decide)
  have size : key.utf8ByteSize = 200 := utf8ByteSize_replicate 200
  -- From here on only the size of the key counts.
  clear_value key
  have rooted := rooted_single "data"
  have kept : a.root.pieces.filter (· != "") = ["data"] := by
    rw [List.filter_cons_of_pos (by decide), List.filter_replicate, if_neg (by decide)]
  have mounted : a.Mounted ["data"] :=
    mounted_of_kept rfl kept ⟨by decide, by decide⟩ (by decide) (by decide +kernel)
  have clean : a.root.hasNul = false := by
    rw [Path.hasNul, List.any_cons, List.any_replicate]
    decide
  have clear : a.Clear ["data"] key := by
    refine ⟨fun front back _ nonempty _ => ?_, ?_⟩
    · rw [file?, node?_single ⟨front, nonempty, rfl⟩]
    · rw [node?_single ⟨names key, names_ne_nil key, rfl⟩]
      simp
  refine ⟨⟨mounted, rooted, clean⟩, valid, names_eq, ?_, clear, ?_, fun stored => ?_⟩
  · rw [size]
    decide
  · rw [besidePlace, node?_single ⟨_, by simp, List.append_assoc ..⟩]
    simp
  · -- The path has 4104 bytes.
    have path_eq : a.path key = Path.join ⟨false, "data" :: List.replicate (3899 + 1) ""⟩ ⟨false, [key]⟩ := by
      rw [path, ofString_eq valid, names_eq]
    have bound := (fits_of_write valid stored).target
    rw [path_eq, byteSize_join_slashes, size, maxPathBytes,
      show "data".utf8ByteSize = 4 from rfl] at bound
    omega

end BlobDepot.Archive
