import BlobDepot.Proofs.Archive.Effect

/-! # What a failed write leaves

The directories above a target are made first, and nothing unmakes them if the write fails
after that.  In the tree they are all that it leaves (`Settled.paved_of_write_error`), and it leaves
none if the names and paths of the write were not too long (`Settled.node?_write_error_of_fits`).
Once they are there the write has used up its number (`nextUpload_write`).

This hardly shows.  Say an archive follows another one if it is the same but for some more
directories and some numbers less to come.  Then it reads the same, and it takes the same writes,
but for those to the places of the new directories and those for which only the smaller number is
short enough; and it goes on to follow the other one (`Follows.write`).
-/

namespace BlobDepot.Archive

open FileTree BlobKey

/-- At places of `S` directories may have come where nothing was.  All else is as it was. -/
def Paved (S : Location → Prop) (t t' : FileTree) : Prop :=
  ∀ q, t'.node? q = t.node? q ∨ S q ∧ t.node? q = none ∧ t'.node? q = some .directory

/-- The second archive is the first one, but for directories at places of `S` and for a number of
    uploads that are used up. -/
structure Follows (base : Location) (S : Location → Prop) (used : Nat) (a a' : Archive) : Prop where
  settled : a.Settled base
  settled' : a'.Settled base
  free : DotFree base a.tree
  free' : DotFree base a'.tree
  root : a'.root = a.root
  nextUpload : a'.nextUpload = a.nextUpload + used
  paved : Paved S a.tree a'.tree

/-- What follows takes a write under a key if the other archive does: a directory is not new at the
    target, and if there is room there is still room with the number that comes later. -/
structure Bears (S : Location → Prop) (base : Location) (a a' : Archive) (key : String) : Prop where
  apart : ¬ S (base ++ names key)
  room : a.Fits key → a'.Fits key

variable {a a' : Archive} {t t' : FileTree} {base : Location} {S : Location → Prop} {key : String} {data : ByteArray}
variable {f : Fault} {used : Nat}

/-! ## Paved trees -/

theorem Paved.file?_eq (paved : Paved S t t') (q : Location) : t'.file? q = t.file? q := by
  rw [file?, file?]
  obtain same | ⟨_, missing, made⟩ := paved q
  · rw [same]
  · rw [missing, made]

theorem Paved.node?_eq (paved : Paved S t t') {q : Location} (apart : ¬ S q) :
    t'.node? q = t.node? q :=
  (paved q).resolve_right fun made => apart made.1

/-- What is paved at all is so where something changed. -/
theorem Paved.changed (paved : Paved S t t') : Paved (fun q => t'.node? q ≠ t.node? q) t t' := by
  intro q
  by_cases same : t'.node? q = t.node? q
  · exact .inl same
  · obtain ⟨_, missing, made⟩ := (paved q).resolve_left same
    exact .inr ⟨same, missing, made⟩

/-! ## A write that fails -/

/-- Directories that cannot all be made are not made at all. -/
theorem Settled.makeDirs_error (settled : a.Settled base) (valid : Valid key) {e : Errno}
    {partly : FileTree} (failed : a.tree.makeDirs (a.path key).parent = (some e, partly)) :
    partly = a.tree := by
  obtain ⟨front, shorter, same⟩ := above_path a valid
  have led : a.tree.walk (a.path key).absolute (front.filter (· != "")) = .ok ⟨base, .directory⟩ :=
    same ▸ settled.mounted.led valid
  rw [makeDirs, Path.ancestors_parent, shorter] at failed
  exact settled.rooted.makeChain_error led
    (fun _ member => isName_of_mem_names valid (mem_names_of_dropLast member))
    (fun _ member => plain_of_mem_names valid (mem_names_of_dropLast member))
    (fun _ member => size_of_mem_dropLast valid member) failed

/-- What stands once the directories above a target were made, or could not be. -/
theorem Settled.node?_makeDirs (settled : a.Settled base) (valid : Valid key) (q : Location) :
    (a.tree.makeDirs (a.path key).parent).2.node? q =
      if (a.tree.makeDirs (a.path key).parent).1 = none ∧ q <+: base ++ (names key).dropLast
      then some .directory else a.tree.node? q := by
  cases made : a.tree.makeDirs (a.path key).parent with
  | mk e tree =>
    cases e with
    | none => simp [settled.node?_made valid made]
    | some e => simp [settled.makeDirs_error valid made]

/-- A write that fails leaves the directories above its target and nothing else. -/
theorem Settled.node?_write_error (settled : a.Settled base) (valid : Valid key)
    (free : DotFree base a.tree) (failed : (a.write key data).1 = .error f) (q : Location) :
    (a.write key data).2.tree.node? q = (a.tree.makeDirs (a.path key).parent).2.node? q := by
  have prepared := settled.mounted.dotFree_makeDirs valid free
  rw [write] at failed ⊢
  cases made : a.tree.makeDirs (a.path key).parent with
  | mk e ready =>
    rw [made] at failed prepared
    cases e with
    | some e => rfl
    | none =>
      simp only at failed ⊢
      cases uploaded : upload ready (a.path key) a.nextUpload data with
      | mk e tree =>
        rw [uploaded] at failed
        cases e with
        | none => cases failed
        | some e =>
          obtain ⟨_, rfl⟩ | ⟨directory, name, found, vacant, rfl⟩ := upload_eq_error uploaded
          · rfl
          · -- Where the file beside the target was, nothing had been.
            have site := (settled.of_made made).mounted.site_of_locate_uploadPath valid found
            rw [node?_beside vacant, site, besidePlace_eq a valid]
            split
            · rename_i here
              rw [here, prepared.missing_beside]
            · rfl

theorem nextUpload_write (a : Archive) (key : String) (data : ByteArray) :
    (a.write key data).2.nextUpload =
      if (a.tree.makeDirs (a.path key).parent).1 = none then a.nextUpload + 1 else a.nextUpload := by
  rw [write]
  cases a.tree.makeDirs (a.path key).parent with
  | mk e ready =>
    cases e with
    | some e => simp
    | none =>
      simp only [if_true]
      split <;> rfl

theorem Reaches.of_files (reaches : a.Reaches base key) (root : a'.root = a.root)
    (files : ∀ q, a'.tree.file? q = a.tree.file? q) : a'.Reaches base key := by
  have path_eq := path_of_root root key
  refine ⟨path_eq ▸ reaches.short, reaches.way.short, fun front back v split nonempty stands => ?_⟩
  rw [← file?_eq_some_iff, files, file?_eq_some_iff] at stands
  exact reaches.way.unblocked front back v split nonempty stands

/-- What is read from the one is read from the other. -/
theorem Follows.read_eq_ok_iff (follows : Follows base S used a a') (valid : Valid key)
    (found : Option ByteArray) : a'.read key = .ok found ↔ a.read key = .ok found := by
  have files := follows.paved.file?_eq
  have reaches_iff : a'.Reaches base key ↔ a.Reaches base key :=
    ⟨fun reaches => reaches.of_files follows.root.symm fun q => (files q).symm,
      fun reaches => reaches.of_files follows.root files⟩
  rw [follows.settled'.read_eq_ok_iff valid, follows.settled.read_eq_ok_iff valid, reaches_iff, files]

theorem Follows.unblocked_iff (follows : Follows base S used a a') :
    a'.Unblocked base key ↔ a.Unblocked base key := by
  simp only [Unblocked, follows.paved.file?_eq]

theorem Follows.made_iff (follows : Follows base S used a a') (valid : Valid key) :
    (a'.tree.makeDirs (a'.path key).parent).1 = none ↔
      (a.tree.makeDirs (a.path key).parent).1 = none := by
  rw [follows.settled'.made_iff valid, follows.settled.made_iff valid,
    path_of_root follows.root, follows.unblocked_iff]

theorem Settled.write_eq_ok_iff_clear (settled : a.Settled base) (valid : Valid key)
    (free : DotFree base a.tree) (data : ByteArray) :
    (a.write key data).1 = .ok () ↔ a.Clear base key ∧ a.Fits key := by
  constructor
  · intro stored
    have receives := (settled.write_eq_ok_iff_receives valid data).mp stored
    exact ⟨receives.clear, receives.fits⟩
  · rintro ⟨clear, fits⟩
    exact (settled.write_eq_ok_iff valid clear free data).mpr fits

/-- What can be written to the one can be written to the other, if that bears it. -/
theorem Follows.write_eq_ok_iff (follows : Follows base S used a a') (valid : Valid key)
    (bears : Bears S base a a' key) (data : ByteArray) :
    (a'.write key data).1 = .ok () ↔ (a.write key data).1 = .ok () := by
  have target := follows.paved.node?_eq bears.apart
  have clear_iff : a'.Clear base key ↔ a.Clear base key :=
    ⟨fun clear => ⟨follows.unblocked_iff.mp clear.above, target ▸ clear.target⟩,
      fun clear => ⟨follows.unblocked_iff.mpr clear.above, target.symm ▸ clear.target⟩⟩
  have fits_iff : a'.Fits key ↔ a.Fits key :=
    ⟨fun fits => fits.of_le valid follows.root.symm (by rw [follows.nextUpload]; omega), bears.room⟩
  rw [follows.settled'.write_eq_ok_iff_clear valid follows.free',
    follows.settled.write_eq_ok_iff_clear valid follows.free, clear_iff, fits_iff]

/-- Where no name starts with a dot, nothing was beside the target before the write either. -/
theorem Settled.node?_write_of_dotFree (settled : a.Settled base) (valid : Valid key)
    (free : DotFree base a.tree) (stored : (a.write key data).1 = .ok ()) (q : Location) :
    (a.write key data).2.tree.node? q =
      if q = base ++ names key then some (.file data)
      else if q <+: base ++ (names key).dropLast then some .directory
      else a.tree.node? q := by
  rw [settled.node?_write valid stored]
  split
  · rfl
  · by_cases beside : q = besidePlace base key a.nextUpload
    · rw [besidePlace_eq a valid] at beside
      subst beside
      rw [besidePlace_eq a valid, if_pos rfl, if_neg (not_start_above base key _), free.missing_beside]
    · rw [if_neg beside]

theorem Follows.paved_write (follows : Follows base S used a a') (valid : Valid key)
    (bears : Bears S base a a' key) (data : ByteArray) :
    Paved S (a.write key data).2.tree (a'.write key data).2.tree := by
  have same := follows.write_eq_ok_iff valid bears data
  intro q
  cases written : (a.write key data).1 with
  | ok done =>
    -- Both put the same to the same places.
    rw [follows.settled.node?_write_of_dotFree valid follows.free written,
      follows.settled'.node?_write_of_dotFree valid follows.free' (same.mpr written)]
    split
    · exact .inl rfl
    · split
      · exact .inl rfl
      · exact follows.paved q
  | error f =>
    -- Both make the directories above the target, or none does.
    obtain ⟨f', written'⟩ : ∃ f', (a'.write key data).1 = .error f' := by
      cases other : (a'.write key data).1 with
      | error f' => exact ⟨f', rfl⟩
      | ok done =>
        rw [same.mp other] at written
        cases written
    rw [follows.settled.node?_write_error valid follows.free written,
      follows.settled'.node?_write_error valid follows.free' written',
      follows.settled.node?_makeDirs valid, follows.settled'.node?_makeDirs valid]
    simp only [follows.made_iff valid]
    split
    · exact .inl rfl
    · exact follows.paved q

/-- After the same write, the one follows the other as before. -/
theorem Follows.write (follows : Follows base S used a a') (valid : Valid key)
    (bears : Bears S base a a' key) (data : ByteArray) :
    Follows base S used (a.write key data).2 (a'.write key data).2 := by
  obtain ⟨mounted, root⟩ := follows.settled.mounted.after_write valid data
  obtain ⟨mounted', root'⟩ := follows.settled'.mounted.after_write valid data
  refine ⟨follows.settled.after_write valid data, follows.settled'.after_write valid data,
    follows.settled.mounted.dotFree_write valid follows.free data,
    follows.settled'.mounted.dotFree_write valid follows.free' data,
    by rw [root, root', follows.root], ?_, follows.paved_write valid bears data⟩
  rw [nextUpload_write, nextUpload_write, follows.nextUpload]
  simp only [follows.made_iff valid]
  split <;> omega

end BlobDepot.Archive
