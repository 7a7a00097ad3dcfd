import BlobDepot.Proofs.Archive.Room
import BlobDepot.Proofs.Depot.Failures

/-! # Writes that find no room

A key that is accepted, with no blob above its place and no directory at it, can be written if
the file beside the target finds room, and not otherwise (`put_decided_by_room`).  The name of
that file grows with the number of the upload, so a key that was written once cannot always be
written again.
-/

namespace BlobDepot.Depot

open Archive FileTree BlobKey

variable {d : Depot} {base : Location} {key full : String}

/-- Take a depot as it was opened, with no name in its root directory that starts with a dot,
    after any calls.  A write under a key that it accepts, to a clear place, is carried out
    exactly if it fits. -/
theorem put_decided_by_room {settings : Settings} {t : FileTree} (fresh : Fresh settings t d)
    (rooted : t.Rooted) (mounted : d.archive.Mounted base) (free : DotFree base d.archive.tree)
    (calls : List Call) (qualified : (d.run calls).qualify key = .ok full)
    (clear : (d.run calls).archive.Clear base full) (data : ByteArray) (use : CacheUse) :
    ((d.run calls).put key data use).result = .ok data.size ↔ (d.run calls).archive.Fits full := by
  have settled := fresh.settled_run rooted mounted calls
  have free := dotFree_run mounted free calls
  have valid : Valid full := by
    obtain ⟨_, whole, rfl⟩ := qualify_eq_ok_iff.mp qualified
    exact whole
  rw [← settled.write_eq_ok_iff valid clear free data, put_result, qualified]
  simp only [Except.bind]
  cases ((d.run calls).archive.write full data).1 <;> simp [Except.map]

/-- A blob below a directory that is still missing, after another one was written. -/
theorem put_decided_by_room_of_nested :
    let settings : Settings := { directory := "data", entryLimit := 2, byteLimit := 4 }
    let bare := FileTree.empty.set ["data"] .directory
    let d : Depot := ⟨⟨bare, .ofString "data", 0⟩, .empty 2 4, ""⟩
    let now := d.run [.put "a" ⟨#[1]⟩ .through]
    Fresh settings bare d ∧ bare.Rooted ∧ d.archive.Mounted ["data"] ∧
      DotFree ["data"] d.archive.tree ∧ now.qualify "b/c" = .ok "b/c" ∧
      now.archive.Clear ["data"] "b/c" ∧ now.archive.Fits "b/c" ∧
      (now.put "b/c" ⟨#[2, 3]⟩ .around).result = .ok 2 := by
  intro settings bare d now
  have fresh : Fresh settings bare d := fresh_of_directory (by decide) (by decide +kernel)
  have rooted : (FileTree.empty.set ([] ++ ["data"]) .directory).Rooted :=
    rooted_empty.set rfl (by decide +kernel)
  have mounted : d.archive.Mounted ["data"] := mounted_data rfl (by decide +kernel) _
  have free : DotFree ["data"] d.archive.tree := dotFree_single "data"
  have qualified : now.qualify "b/c" = .ok "b/c" := by decide +kernel
  have names_eq : names "b/c" = ["b", "c"] := by decide +kernel
  have clear : now.archive.Clear ["data"] "b/c" := by
    refine ⟨fun front back split nonempty rest => ?_, by decide +kernel⟩
    -- The only place above is that of `b`.
    rw [names_eq] at split
    have one : front = ["b"] := by
      cases front with
      | nil => exact absurd rfl nonempty
      | cons name front => cases front <;> simp_all
    rw [one]
    decide +kernel
  have fits : now.archive.Fits "b/c" :=
    .of_last (by rw [names_eq]; rfl) (by decide +kernel) (by decide +kernel) (by decide +kernel)
  exact ⟨fresh, rooted, mounted, free, qualified, clear, fits,
    (put_decided_by_room fresh rooted mounted free _ qualified clear ⟨#[2, 3]⟩ .around).mpr fits⟩

/-- A key of 244 bytes, valid and clear, finds no room once ten other uploads were made. -/
theorem put_fails_after_ten :
    let settings : Settings := { directory := "data", entryLimit := 2, byteLimit := 4 }
    let bare := FileTree.empty.set ["data"] .directory
    let d : Depot := ⟨⟨bare, .ofString "data", 0⟩, .empty 2 4, ""⟩
    let long := String.ofList (List.replicate 244 'x')
    let now := d.run (List.replicate 10 (.put "a" ⟨#[1]⟩ .around))
    Fresh settings bare d ∧ now.qualify long = .ok long ∧ now.archive.Clear ["data"] long ∧
      (now.put long ⟨#[1]⟩ .around).result ≠ .ok 1 := by
  intro settings bare d long now
  obtain ⟨valid, names_eq⟩ : Valid long ∧ names long = [long] :=
    valid_replicate (by decide) (by decide)
  have size : long.utf8ByteSize = 244 := utf8ByteSize_replicate 244
  -- From here on only the size of the key counts.
  clear_value long
  have count : now.archive.nextUpload = 10 := by decide +kernel
  have home : now.archive.tree.home = [] := by decide +kernel
  have nodes : now.archive.tree.nodes.toList =
      [(["data"], .directory), (["data", "a"], .file ⟨#[1]⟩)] := by decide +kernel
  have plain : now.keyPrefix ++ long = long := by
    have front : now.keyPrefix = "" := keyPrefix_run d _
    rw [front, String.empty_append]
  have whole : Valid (now.keyPrefix ++ long) := plain.symm ▸ valid
  have clear : now.archive.Clear ["data"] long := by
    refine ⟨fun front back split nonempty rest => ?_, fun stands => ?_⟩
    · rw [names_eq] at split
      cases front with
      | nil => exact absurd rfl nonempty
      | cons name front => simp_all
    · have listed := mem_nodes_of_node? (by simp [home]) stands
      rw [nodes, names_eq] at listed
      simp at listed
  refine ⟨fresh_of_directory (by decide) (by decide +kernel),
    qualify_eq_ok_iff.mpr ⟨valid, whole, plain.symm⟩, clear, fun stored => ?_⟩
  -- The name of the file beside the target would have 256 bytes.
  have fits : now.archive.Fits long := by
    rw [put_result_of_valid ⟨valid, whole⟩, plain] at stored
    cases written : (now.archive.write long ⟨#[1]⟩).1 with
    | error f =>
      rw [written] at stored
      cases stored
    | ok done => exact fits_of_write valid written
  have room := fits.name long (by rw [names_eq]; rfl)
  rw [size, count, show (toString 10).utf8ByteSize = 2 from rfl, maxNameBytes] at room
  omega

end BlobDepot.Depot
