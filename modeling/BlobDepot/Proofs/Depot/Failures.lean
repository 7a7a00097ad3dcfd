import BlobDepot.Proofs.Depot.Faithful
import BlobDepot.Proofs.Archive.Leftovers

/-! # Writes that fail

A write to the depot that fails leaves the cache as it was: the cache is only touched once the
archive has the new bytes.  In the archive every file stays as it was, up to the file beside
the target, which is gone once the write came so far that it put its bytes there
(`put_error`).

Nor do writes leave anything beside their targets if all goes well, so that no sequence of
calls brings about a name that starts with a dot (`dotFree_run`).
-/

namespace BlobDepot.Depot

open Archive FileTree BlobKey

/-- Whether a write comes so far that it puts its bytes to the file beside its target. -/
def begins (d : Depot) (key : String) (data : ByteArray) : Bool :=
  match d.qualify key with
  | .error _ => false
  | .ok full => d.archive.begins full data

/-- What a failed write leaves of a depot, `beside` being the path of the file beside its
    target and `begun` whether the write came so far that it put its bytes there. -/
structure Spared (beside : Path) (begun : Bool) (d d' : Depot) : Prop where
  cache : d'.cache = d.cache
  keyPrefix : d'.keyPrefix = d.keyPrefix
  /-- Every file is there with its bytes, and no file is new. -/
  files : begun = false → ∀ q, d'.archive.tree.file? q = d.archive.tree.file? q
  /-- Every other file is there with its bytes, and no file is new. -/
  others : begun = true → ∃ place, d'.archive.tree.Belongs beside place ∧
    ∀ q, d'.archive.tree.file? q = if q = place then none else d.archive.tree.file? q

variable {d : Depot} {base : Location} {key : String} {data : ByteArray} {use : CacheUse}

theorem put_error {f : Fault} (failed : (d.put key data use).result = .error f) :
    Spared (d.archive.beside (d.keyPrefix ++ key)) (d.begins key data) d
      (d.put key data use).depot := by
  rw [put] at failed ⊢
  rw [begins]
  cases qualified : d.qualify key with
  | error g =>
    -- The key was refused, and nothing was done.
    exact ⟨rfl, rfl, fun _ _ => rfl, fun begun => by cases begun⟩
  | ok full =>
    obtain ⟨_, _, rfl⟩ := qualify_eq_ok_iff.mp qualified
    rw [qualified] at failed
    simp only at failed ⊢
    cases written : d.archive.write (d.keyPrefix ++ key) data with
    | mk result archive =>
      rw [written] at failed
      cases result with
      | error g =>
        obtain ⟨files, others⟩ := files_write_error written
        exact ⟨rfl, rfl, files, others⟩
      | ok done => cases use <;> cases failed

theorem dotFree_run (mounted : d.archive.Mounted base) (free : DotFree base d.archive.tree)
    (calls : List Call) : DotFree base (d.run calls).archive.tree :=
  (kept_run (P := fun a => a.Mounted base ∧ DotFree base a.tree)
    (fun data valid kept => ⟨(kept.1.after_write valid data).1, kept.1.dotFree_write valid kept.2 data⟩)
    ⟨mounted, free⟩ calls).2

/-- A write that fails loses nothing: the cache is as it was, and so is every file but the one
    beside the target, which is gone if the bytes were put there.  And no sequence of calls
    brings about a name that starts with a dot in the root directory. -/
theorem writes_leave_nothing (d : Depot) :
    (∀ key data use f, (d.put key data use).result = .error f →
      Spared (d.archive.beside (d.keyPrefix ++ key)) (d.begins key data) d
        (d.put key data use).depot) ∧
    ∀ base, d.archive.Mounted base → DotFree base d.archive.tree →
      ∀ calls, DotFree base (d.run calls).archive.tree :=
  ⟨fun _ _ _ _ => put_error, fun _ => dotFree_run⟩

/-- One depot finds a directory at the target and a file of another upload beside it; the
    other one is empty at first, and one of its writes fails below a file. -/
theorem writes_leave_nothing_of_planted :
    let settings : Settings := { directory := "data", entryLimit := 2, byteLimit := 4 }
    let bare := FileTree.empty.set ["data"] .directory
    let t := (bare.set ["data", "a"] .directory).set ["data", ".a.0.partial"] (.file ⟨#[7]⟩)
    let d : Depot := ⟨⟨t, .ofString "data", 0⟩, .empty 2 4, ""⟩
    let after := (d.put "a" ⟨#[1]⟩ .through).depot
    let d' : Depot := ⟨⟨bare, .ofString "data", 0⟩, .empty 2 4, ""⟩
    let calls : List Call := [.put "a" ⟨#[1]⟩ .through, .put "a/b" ⟨#[2]⟩ .around]
    (Fresh settings t d ∧ (d.put "a" ⟨#[1]⟩ .through).result = .error Errno.isDirectory.fault ∧
      d.begins "a" ⟨#[1]⟩ = true ∧
      Spared (d.archive.beside (d.keyPrefix ++ "a")) (d.begins "a" ⟨#[1]⟩) d after ∧
      after.archive.tree.file? ["data", ".a.0.partial"] = none) ∧
    (Fresh settings bare d' ∧ (d'.run calls).archive.tree.file? ["data", "a"] = some ⟨#[1]⟩ ∧
      DotFree ["data"] bare ∧ DotFree ["data"] (d'.run calls).archive.tree) := by
  intro settings bare t d after d' calls
  have fresh : Fresh settings t d := fresh_of_directory (by decide) (by decide +kernel)
  have fresh' : Fresh settings bare d' := fresh_of_directory (by decide) (by decide +kernel)
  have failed : (d.put "a" ⟨#[1]⟩ .through).result = .error Errno.isDirectory.fault := by
    decide +kernel
  have spared := (writes_leave_nothing d).1 _ _ _ _ failed
  have mounted : d'.archive.Mounted ["data"] := mounted_data rfl (by decide +kernel) _
  have free : DotFree ["data"] bare := dotFree_single "data"
  have kept := (writes_leave_nothing d').2 _ mounted free calls
  refine ⟨⟨fresh, failed, ?_, spared, ?_⟩, fresh', ?_, free, kept⟩ <;> decide +kernel

end BlobDepot.Depot
