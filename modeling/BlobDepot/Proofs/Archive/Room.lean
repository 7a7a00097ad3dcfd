import BlobDepot.Proofs.Archive.Leftovers
import BlobDepot.Proofs.Archive.Reach

/-! # Room for uploads

A write goes by way of a file beside its target, whose name is longer than that of the target
by the number of the upload and ten more bytes.  So a key can be valid and free and have no
room all the same: the write succeeds exactly if that name is not too long for a directory and
both paths can be looked up (`Settled.write_eq_ok_iff`).  As uploads are numbered, a key that
once had room can lose it, and none gets it back (`Fits.of_le`).
-/

namespace BlobDepot.Archive

open FileTree BlobKey

/-- The next write under a key finds room for its names and its paths. -/
structure Fits (a : Archive) (key : String) : Prop where
  name : ∀ last, (names key).getLast? = some last →
    last.utf8ByteSize + (toString a.nextUpload).utf8ByteSize + 10 ≤ maxNameBytes
  beside : (a.beside key).byteSize ≤ maxPathBytes
  target : (a.path key).byteSize ≤ maxPathBytes

/-- No blob stands above the place of a key. -/
def Unblocked (a : Archive) (base : Location) (key : String) : Prop :=
  ∀ front back, names key = front ++ back → front ≠ [] → back ≠ [] →
    a.tree.file? (base ++ front) = none

/-- No blob stands above the place of a key, and no directory at it. -/
structure Clear (a : Archive) (base : Location) (key : String) : Prop where
  above : a.Unblocked base key
  target : a.tree.node? (base ++ names key) ≠ some .directory

variable {a : Archive} {t t' : FileTree} {base : Location} {key last : String} {data : ByteArray}

/-! ## What an upload needs -/

theorem utf8ByteSize_beside (a : Archive) (valid : Valid key) (number : Nat)
    (final : (names key).getLast? = some last) : (besideName (a.path key) number).utf8ByteSize =
      last.utf8ByteSize + (toString number).utf8ByteSize + 10 := by
  rw [utf8ByteSize_besideName, fileName?_path a valid, final, Option.getD_some]

theorem fits_of_upload (valid : Valid key)
    (done : upload t (a.path key) a.nextUpload data = (none, t')) : a.Fits key := by
  obtain ⟨directory, name, directory', name', found, _, found', _⟩ := upload_eq_ok_iff.mp done
  obtain ⟨rfl, _⟩ := name_of_locate_uploadPath found
  obtain ⟨all, legible, _, _, _, short, _⟩ := locate_eq_ok_iff.mp found
  obtain ⟨all', legible', _⟩ := locate_eq_ok_iff.mp found'
  refine ⟨fun last final => ?_, (legible_iff.mp ⟨all, legible⟩).2.1,
    (legible_iff.mp ⟨all', legible'⟩).2.1⟩
  rwa [utf8ByteSize_beside a valid a.nextUpload final] at short

theorem fits_of_write (valid : Valid key) (stored : (a.write key data).1 = .ok ()) :
    a.Fits key := by
  rw [write] at stored
  split at stored
  · cases stored
  · split at stored
    · cases stored
    · rename_i tree uploaded
      exact fits_of_upload valid uploaded

theorem Fits.of_last (final : (names key).getLast? = some last)
    (name : last.utf8ByteSize + (toString a.nextUpload).utf8ByteSize + 10 ≤ maxNameBytes)
    (beside : (a.beside key).byteSize ≤ maxPathBytes)
    (target : (a.path key).byteSize ≤ maxPathBytes) : a.Fits key :=
  ⟨fun _ final' => Option.some.inj (final.symm.trans final') ▸ name, beside, target⟩

theorem Settled.no_file_above (settled : a.Settled base) (unblocked : a.Unblocked base key)
    {front back : List String} (split : names key = front ++ back) (nonempty : back ≠ [])
    (v : ByteArray) : a.tree.node? (base ++ front) ≠ some (.file v) := by
  intro stands
  by_cases top : front = []
  · subst top
    have root := node?_of_walk settled.mounted
    rw [List.append_nil] at stands
    rw [stands] at root
    cases root
  · have none_above := unblocked front back split top nonempty
    rw [file?_eq_some_iff.mpr stands] at none_above
    cases none_above

/-- Of the names of a key only a single one can be too long. -/
theorem size_of_mem_dropLast (valid : Valid key) {name : String}
    (member : name ∈ (names key).dropLast) : name.utf8ByteSize ≤ maxNameBytes := by
  obtain alone | room := size_of_mem_names valid (mem_names_of_dropLast member)
  · rw [alone] at member
    cases member
  · simp only [maxNameBytes, maxBytes] at room ⊢
    omega

/-- Above a place that is not blocked the way is open. -/
theorem Settled.open_above (settled : a.Settled base) (valid : Valid key)
    (unblocked : a.Unblocked base key) : a.tree.Open base (names key).dropLast := by
  obtain ⟨above, last, split⟩ := names_eq_concat key
  refine ⟨fun name => size_of_mem_dropLast valid, ?_⟩
  rw [split, List.dropLast_concat]
  intro front back v parts nonempty
  rw [parts, List.append_assoc] at split
  exact settled.no_file_above unblocked split (List.append_ne_nil_of_left_ne_nil nonempty _) v

theorem Settled.legible_above (settled : a.Settled base) (valid : Valid key)
    (short : (a.path key).byteSize ≤ maxPathBytes) :
    ∀ p ∈ (a.path key).parent.ancestors, ∃ all, namesOf p = .ok all := by
  intro p member
  have start := (Path.starts_of_mem_ancestors member).trans (Path.starts_parent _)
  rw [Path.ancestors_parent] at member
  exact legible_of_starts (settled.legible_path valid short) start
    (Path.pieces_ne_nil_of_mem_landings member)

/-- The directories above a place that is not blocked can be made, once their paths can be looked
    up. -/
theorem Settled.makeDirs_of_unblocked (settled : a.Settled base) (valid : Valid key)
    (unblocked : a.Unblocked base key)
    (legible : ∀ p ∈ (a.path key).parent.ancestors, ∃ all, namesOf p = .ok all) :
    ∃ ready, a.tree.makeDirs (a.path key).parent = (none, ready) ∧
      ready.node? (base ++ (names key).dropLast) = some .directory := by
  obtain ⟨front, shorter, same⟩ := above_path a valid
  have led : a.tree.walk (a.path key).absolute (front.filter (· != "")) = .ok ⟨base, .directory⟩ :=
    same ▸ settled.mounted.led valid
  obtain ⟨above, last, split⟩ := names_eq_concat key
  have free : ∀ v, a.tree.node? (base ++ (names key).dropLast) ≠ some (.file v) := by
    rw [split, List.dropLast_concat]
    exact settled.no_file_above unblocked split (List.cons_ne_nil last [])
  rw [Path.ancestors_parent, shorter] at legible
  rw [makeDirs, Path.ancestors_parent, shorter]
  exact settled.rooted.makeChain_open led legible
    (fun _ member => isName_of_mem_names valid (mem_names_of_dropLast member))
    (fun _ member => plain_of_mem_names valid (mem_names_of_dropLast member))
    (settled.open_above valid unblocked) free

/-! ## The two sites -/

/-- The directory above a target is reached from the root directory by all names of the key but
    the last. -/
theorem Mounted.walk_parent_iff (mounted : a.Mounted base) (valid : Valid key) {place : Location} :
    a.tree.walk (a.path key).absolute ((a.path key).parent.pieces.filter (· != "")) =
        .ok ⟨place, .directory⟩ ↔
      a.tree.walkFrom ⟨base, .directory⟩ (names key).dropLast = .ok ⟨place, .directory⟩ := by
  obtain ⟨front, shorter, same⟩ := above_path a valid
  have named : (names key).dropLast.filter (· != "") = (names key).dropLast :=
    Path.filter_of_isName fun _ member => isName_of_mem_names valid (mem_names_of_dropLast member)
  rw [walk_parent, shorter, List.filter_append, same, named, walk_append, mounted.led valid]
  rfl

theorem Settled.walk_above (settled : a.Settled base) (valid : Valid key)
    (way : a.tree.Open base (names key).dropLast)
    (above : a.tree.node? (base ++ (names key).dropLast) = some .directory) :
    a.tree.walkFrom ⟨base, .directory⟩ (names key).dropLast =
      .ok ⟨base ++ (names key).dropLast, .directory⟩ :=
  settled.rooted.walkFrom (node?_of_walk settled.mounted)
    (fun _ member => plain_of_mem_names valid (mem_names_of_dropLast member)) way.short above

theorem Settled.locate_path (settled : a.Settled base) (valid : Valid key)
    (way : a.tree.Open base (names key).dropLast)
    (above : a.tree.node? (base ++ (names key).dropLast) = some .directory)
    (short : (a.path key).byteSize ≤ maxPathBytes) (final : (names key).getLast? = some last)
    (short_last : last.utf8ByteSize ≤ maxNameBytes) :
    a.tree.locate (a.path key) = .ok ⟨base ++ (names key).dropLast, some last, false⟩ := by
  obtain ⟨front, split⟩ := List.getLast?_eq_some_iff.mp final
  have onward := filter_path a valid
  have walked := settled.walk_above valid way above
  have member : last ∈ names key := List.mem_of_getLast? final
  rw [split, List.dropLast_concat] at walked ⊢
  rw [split] at onward
  rw [locate_onward (settled.mounted.led valid) onward (settled.legible_path valid short) walked
    (plain_of_mem_names valid member) short_last, decide_eq_false (path_ends_unslashed a valid)]

theorem uploadPath_eq (a : Archive) (valid : Valid key) (number : Nat) :
    uploadPath (a.path key) number =
      ⟨a.root.absolute, (a.path key).parent.pieces ++ [besideName (a.path key) number]⟩ := by
  obtain ⟨last, _, final⟩ := exists_last_name key
  rw [uploadPath, ← besideName, Path.withFileName_eq, absolute_path a valid]
  rw [fileName?_path a valid, final]
  rfl

theorem names_uploadPath (a : Archive) (valid : Valid key) {number : Nat} {all : List String}
    (legible : namesOf (uploadPath (a.path key) number) = .ok all) :
    all = (a.path key).parent.pieces.filter (· != "") ++ [besideName (a.path key) number] := by
  have nonempty := besideName_ne_empty (a.path key) number
  rw [namesOf_eq_ok legible, uploadPath_eq a valid, List.filter_append]
  simp [nonempty]

theorem Settled.legible_uploadPath (settled : a.Settled base) (valid : Valid key) (number : Nat)
    (short : (uploadPath (a.path key) number).byteSize ≤ maxPathBytes) :
    ∃ all, namesOf (uploadPath (a.path key) number) = .ok all := by
  have whole := uploadPath_eq a valid number
  obtain ⟨last, member, final⟩ := exists_last_name key
  refine legible_iff.mpr ⟨?_, short, .inl (by rw [whole]; simp)⟩
  have before := hasNul_of_starts (Path.starts_parent _) (settled.hasNul_path valid)
  have clean : '\x00' ∉ ((a.path key).fileName?.getD "").toList := by
    rw [fileName?_path a valid, final]
    exact nul_not_mem_names valid member
  have after := nul_not_mem_besideName clean number
  rw [Path.hasNul] at before ⊢
  rw [whole, List.any_append, before]
  simpa using after

theorem Settled.locate_uploadPath (settled : a.Settled base) (valid : Valid key)
    (way : a.tree.Open base (names key).dropLast)
    (above : a.tree.node? (base ++ (names key).dropLast) = some .directory) (number : Nat)
    (short : (uploadPath (a.path key) number).byteSize ≤ maxPathBytes)
    (short_name : (besideName (a.path key) number).utf8ByteSize ≤ maxNameBytes) :
    a.tree.locate (uploadPath (a.path key) number) =
      .ok ⟨base ++ (names key).dropLast, some (besideName (a.path key) number), false⟩ := by
  obtain ⟨all, legible⟩ := settled.legible_uploadPath valid number short
  have nonempty := besideName_ne_empty (a.path key) number
  have kept := names_uploadPath a valid legible
  have led : a.tree.walk (uploadPath (a.path key) number).absolute
      ((a.path key).parent.pieces.filter (· != "")) =
        .ok ⟨base ++ (names key).dropLast, .directory⟩ := by
    rw [uploadPath_eq a valid, ← absolute_path a valid]
    exact (settled.mounted.walk_parent_iff valid).mpr (settled.walk_above valid way above)
  refine locate_eq_ok_iff.mpr ⟨all, legible, ?_, ?_, plain_besideName _ _, short_name, ?_⟩
  · rwa [kept, List.dropLast_concat]
  · rw [kept, List.getLast?_concat]
  · rw [getLast?_uploadPath]
    simpa using nonempty

/-! ## A later number -/

theorem utf8Size_digitChar {n : Nat} (digit : n < 10) : n.digitChar.utf8Size = 1 := by
  decide +revert

/-- The greater number is not the shorter one. -/
theorem utf8ByteSize_toString_mono {m n : Nat} (le : m ≤ n) :
    (toString m).utf8ByteSize ≤ (toString n).utf8ByteSize := by
  simp only [Nat.toString_eq_repr]
  induction n using Nat.strongRecOn generalizing m with
  | ind n ih =>
    by_cases digit : m < 10
    · -- A single digit is as short as any.
      rw [Nat.repr_of_lt digit, String.utf8ByteSize_singleton, utf8Size_digitChar digit]
      have nonempty : n.repr.utf8ByteSize ≠ 0 :=
        fun zero => Nat.repr_ne_empty (String.utf8ByteSize_eq_zero_iff.mp zero)
      omega
    · have shorter := ih (n / 10) (by omega) (Nat.div_le_div_right le)
      rw [Nat.repr_of_ge (n := m) (by omega), Nat.repr_of_ge (n := n) (by omega)]
      simp only [String.utf8ByteSize_append, String.utf8ByteSize_singleton,
        utf8Size_digitChar (Nat.mod_lt _ (Nat.zero_lt_succ 9))]
      omega

/-- The path of the file beside a target only grows with the number. -/
theorem byteSize_uploadPath_mono (a : Archive) (valid : Valid key) {m n : Nat} (le : m ≤ n) :
    (uploadPath (a.path key) m).byteSize ≤ (uploadPath (a.path key) n).byteSize := by
  have longer := utf8ByteSize_toString_mono le
  have size := utf8ByteSize_besideName (a.path key)
  rw [uploadPath_eq a valid, uploadPath_eq a valid]
  simp only [Path.byteSize, ← List.sum_eq_foldr, List.map_append, List.map_cons, List.map_nil,
    List.sum_append, List.sum_singleton, List.length_append, List.length_singleton, size]
  omega

/-- What fits with one number fits with each smaller one. -/
theorem Fits.of_le {a' : Archive} (fits : a.Fits key) (valid : Valid key) (root : a'.root = a.root)
    (le : a'.nextUpload ≤ a.nextUpload) : a'.Fits key := by
  have path_eq := path_of_root root key
  have shorter := utf8ByteSize_toString_mono le
  refine ⟨fun last final => ?_, ?_, path_eq ▸ fits.target⟩
  · have room := fits.name last final
    omega
  · have short := byteSize_uploadPath_mono a valid le
    have room := fits.beside
    rw [Archive.beside] at room ⊢
    rw [path_eq]
    exact short.trans room

/-! ## The whole write -/

/-- Neither the target nor the file beside it is on the way to them. -/
theorem not_start_above (base : Location) (key name : String) :
    ¬ base ++ (names key).dropLast ++ [name] <+: base ++ (names key).dropLast := by
  intro start
  have longer := start.length_le
  simp only [List.length_append, List.length_singleton] at longer
  omega

theorem not_start_names (base : Location) (key : String) :
    ¬ base ++ names key <+: base ++ (names key).dropLast := by
  obtain ⟨front, last, split⟩ := names_eq_concat key
  have whole : base ++ names key = base ++ (names key).dropLast ++ [last] := by
    rw [split, List.dropLast_concat, List.append_assoc]
  rw [whole]
  exact not_start_above base key last

theorem Settled.upload_of_fits (settled : a.Settled base) (valid : Valid key) (fits : a.Fits key)
    (way : a.tree.Open base (names key).dropLast)
    (above : a.tree.node? (base ++ (names key).dropLast) = some .directory)
    (vacant : a.tree.node? (base ++ (names key).dropLast ++ [besideName (a.path key) a.nextUpload]) ≠
      some .directory)
    (free : a.tree.node? (base ++ names key) ≠ some .directory)
    (data : ByteArray) : ∃ t', upload a.tree (a.path key) a.nextUpload data = (none, t') := by
  obtain ⟨front, last, split⟩ := names_eq_concat key
  have final : (names key).getLast? = some last := by rw [split, List.getLast?_concat]
  have room := fits.name last final
  have found := settled.locate_uploadPath valid way above a.nextUpload fits.beside
    (by rw [utf8ByteSize_beside a valid a.nextUpload final]; exact room)
  have found' := settled.locate_path valid way above fits.target final (by omega)
  refine ⟨_, upload_eq_ok_iff.mpr ⟨_, _, _, _, found, vacant, found', ?_, rfl⟩⟩
  rwa [split, List.dropLast_concat, List.append_assoc, ← split]

/-- All that is said of an archive holds as well once directories are made in it. -/
theorem Settled.of_made (settled : a.Settled base) {p : Path} {ready : FileTree}
    (made : a.tree.makeDirs p = (none, ready)) : Settled { a with tree := ready } base := by
  have alters := alters_makeDirs a.tree p fun _ => False
  have rooted := settled.rooted.makeDirs p
  rw [made] at alters rooted
  exact ⟨settled.mounted.of_alters alters rfl, rooted, settled.clean⟩

/-- A write to a clear place that fits succeeds, unless a directory is in the place of the file
    beside the target. -/
theorem Settled.write_of_vacant (settled : a.Settled base) (valid : Valid key)
    (clear : a.Clear base key) (fits : a.Fits key)
    (vacant : a.tree.node? (base ++ (names key).dropLast ++ [besideName (a.path key) a.nextUpload]) ≠
      some .directory) (data : ByteArray) : (a.write key data).1 = .ok () := by
  obtain ⟨ready, made, above⟩ := settled.makeDirs_of_unblocked valid clear.above
    (settled.legible_above valid fits.target)
  have beside := settled.mounted.node?_makeDirs valid (not_start_above base key
    (besideName (a.path key) a.nextUpload))
  have target := settled.mounted.node?_makeDirs valid (not_start_names base key)
  have files := (alters_makeDirs a.tree (a.path key).parent fun _ => False).files
  rw [made] at beside target files
  rw [← beside] at vacant
  have free := clear.target
  rw [← target] at free
  have way := settled.open_above valid clear.above
  have way' : ready.Open base (names key).dropLast :=
    ⟨way.short, fun front back v split nonempty stands =>
      way.unblocked front back v split nonempty ((files _ v id).mp stands)⟩
  obtain ⟨t', uploaded⟩ := (settled.of_made made).upload_of_fits valid
    ⟨fits.name, fits.beside, fits.target⟩ way' above vacant free data
  rw [write, made]
  simp only
  rw [show upload ready (a.path key) a.nextUpload data = (none, t') from uploaded]

/-- Where no name starts with a dot, nothing has the name of the file beside the target. -/
theorem DotFree.missing_beside (free : DotFree base t) (key : String) (p : Path) (number : Nat) :
    t.node? (base ++ (names key).dropLast ++ [besideName p number]) = none :=
  free _ ⟨_, by simp, List.append_assoc ..⟩ (dotted_beside _ p number)

/-- A write to a clear place succeeds exactly if it fits. -/
theorem Settled.write_eq_ok_iff (settled : a.Settled base) (valid : Valid key)
    (clear : a.Clear base key) (dotFree : DotFree base a.tree) (data : ByteArray) :
    (a.write key data).1 = .ok () ↔ a.Fits key := by
  refine ⟨fits_of_write valid, fun fits => settled.write_of_vacant valid clear fits ?_ data⟩
  rw [dotFree.missing_beside]
  exact nofun

end BlobDepot.Archive
