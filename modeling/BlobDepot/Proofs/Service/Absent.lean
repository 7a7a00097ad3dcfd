import BlobDepot.Proofs.Depot.Faithful
import BlobDepot.Proofs.Service.Requests

/-! # Reading what is not there

A reader who asks for a key without a blob is told that there is none, if the archive can
reach the place of the key.  It cannot if a blob lies above that place, or if the only name of
the key is longer than a directory can hold, or if the whole path is too long.  Then the
reader is told of a fault of the storage, by the depot and by the service
(`absent_answered`).
-/

namespace BlobDepot

open BlobKey FileTree

namespace Depot

open Archive

variable {d : Depot} {base : Location} {key full : String}

/-- Without a blob, a read finds nothing or fails, and the archive's reach decides which. -/
theorem Faithful.get_absent (faithful : d.Faithful) (settled : d.archive.Settled base)
    (qualified : d.qualify key = .ok full)
    (absent : d.archive.tree.file? (base ++ names full) = none) (use : CacheUse) :
    (d.archive.Reaches base full → (d.get key use).result = .ok none) ∧
      (¬ d.archive.Reaches base full → ∃ e : Errno, (e = .notDirectory ∨ e = .nameTooLong) ∧
        (d.get key use).result = .error e.fault) := by
  obtain ⟨source, result⟩ := faithful.get_result qualified use
  obtain ⟨_, valid, rfl⟩ := qualify_eq_ok_iff.mp qualified
  constructor
  · intro reaches
    rw [result, settled.read_of_reaches valid reaches, absent]
    rfl
  · intro unreached
    obtain ⟨e, kind, failed⟩ := settled.read_of_unreached valid unreached
    exact ⟨e, kind, by rw [result, failed]; rfl⟩

end Depot

namespace Service

open Http Depot

/-- A request asks for the blob of a key. -/
def AsksFor (r : Request) (key : String) (use : CacheUse) : Prop :=
  r.method = .get ∧ ∃ encoded, Route.ofPath? r.target.path = some (.blob encoded) ∧
    readAddress encoded r.target.query = .ok (key, use)

variable {s : Service} {now : Moment} {r : Request} {key full : String} {use : CacheUse}
variable {d : Depot} {base : Location} {settings : Settings} {t : FileTree}

theorem response_of_asksFor (asks : AsksFor r key use) (s : Service) (now : Moment) :
    (s.handle now r).response =
      complete .get (deliveryResponse key use (s.depot.get key use).result) := by
  obtain ⟨get, encoded, blob, read⟩ := asks
  simp only [handle_of_get get blob, deliver, read]

/-- Take a depot as it was opened on any tree, after any calls, and a key that it accepts and
    under which no blob is stored.  If the key can be reached, whoever reads it is told that
    there is no blob, and the service answers 404.  If it cannot, reading fails and the
    service answers 500. -/
theorem absent_answered (fresh : Fresh settings t d) (rooted : t.Rooted)
    (mounted : d.archive.Mounted base) (calls : List Call)
    (qualified : (d.run calls).qualify key = .ok full)
    (absent : (d.run calls).archive.tree.file? (base ++ names full) = none) :
    let now := d.run calls
    (now.archive.Reaches base full →
      (∀ use, (now.get key use).result = .ok none) ∧
      ∀ (s : Service) moment r use, s.depot = now → AsksFor r key use →
        (s.handle moment r).response.status = 404) ∧
    (¬ now.archive.Reaches base full →
      (∀ use, ∃ e : Errno, (e = .notDirectory ∨ e = .nameTooLong) ∧
        (now.get key use).result = .error e.fault) ∧
      ∀ (s : Service) moment r use, s.depot = now → AsksFor r key use →
        (s.handle moment r).response.status = 500) := by
  intro now
  have settled := fresh.settled_run rooted mounted calls
  have answers := (fresh.faithful.run calls).get_absent settled qualified absent
  constructor
  · intro reaches
    have none_found := fun use => (answers use).1 reaches
    refine ⟨none_found, fun s moment r use same asks => ?_⟩
    rw [response_of_asksFor asks, status_complete, same, none_found use]
    rfl
  · intro unreached
    have failed := fun use => (answers use).2 unreached
    refine ⟨failed, fun s moment r use same asks => ?_⟩
    obtain ⟨e, _, result⟩ := failed use
    rw [response_of_asksFor asks, status_complete, same, result]
    rfl

/-- The blob `a` is stored.  There is none under `b` and none under `a/b`, but only `b` can be
    reached. -/
theorem absent_answered_of_one_blob :
    let settings : Settings := { directory := "data", entryLimit := 2, byteLimit := 4 }
    let bare := FileTree.empty.set ["data"] .directory
    let d : Depot := ⟨⟨bare, .ofString "data", 0⟩, .empty 2 4, ""⟩
    let calls : List Call := [.put "a" ⟨#[1]⟩ .through]
    let now := d.run calls
    let s : Service := ⟨now, 8, ⟨0, 0⟩⟩
    Fresh settings bare d ∧ bare.Rooted ∧ d.archive.Mounted ["data"] ∧
      (now.get "b" .around).result = .ok none ∧
      (s.handle ⟨1, 0⟩ ⟨.get, ⟨"/blobs/b", ""⟩, ⟨[], none⟩⟩).response.status = 404 ∧
      (∃ e : Errno, (now.get "a/b" .around).result = .error e.fault) ∧
      (s.handle ⟨1, 0⟩ ⟨.get, ⟨"/blobs/a/b", ""⟩, ⟨[], none⟩⟩).response.status = 500 := by
  intro settings bare d calls now s
  have fresh : Fresh settings bare d := fresh_of_directory (by decide) (by decide +kernel)
  have rooted : (FileTree.empty.set ([] ++ ["data"]) .directory).Rooted :=
    rooted_empty.set rfl (by decide +kernel)
  have mounted : d.archive.Mounted ["data"] := Archive.mounted_data rfl (by decide +kernel) _
  have accepted : now.qualify "b" = .ok "b" := by decide +kernel
  have accepted' : now.qualify "a/b" = .ok "a/b" := by decide +kernel
  have beside := absent_answered fresh rooted mounted calls accepted (by decide +kernel)
  have below := absent_answered fresh rooted mounted calls accepted' (by decide +kernel)
  have reached : now.archive.Reaches ["data"] "b" := by
    refine ⟨by decide +kernel, by decide +kernel, fun front back v split nonempty => ?_⟩
    -- Only the root directory stands before the end.
    have names_b : names "b" = ["b"] := by decide +kernel
    rw [names_b] at split
    cases front with
    | nil =>
      have root : now.archive.tree.node? ["data"] = some .directory := by decide +kernel
      simp [root]
    | cons name front => simp_all
  have unreached : ¬ now.archive.Reaches ["data"] "a/b" := fun reaches =>
    reaches.way.unblocked ["a"] ["b"] ⟨#[1]⟩ (by decide +kernel) (by decide) (by decide +kernel)
  obtain ⟨missing, not_found⟩ := beside.1 reached
  obtain ⟨failed, broken⟩ := below.2 unreached
  obtain ⟨e, _, result⟩ := failed .around
  exact ⟨fresh, rooted, mounted, missing .around,
    not_found s _ _ .through rfl ⟨rfl, "b", by decide +kernel, by decide +kernel⟩,
    ⟨e, result⟩,
    broken s _ _ .through rfl ⟨rfl, "a/b", by decide +kernel, by decide +kernel⟩⟩

/-- Below a blob there is no blob, but a reader is told that the storage failed. -/
theorem absent_fails_below_blob :
    let settings : Settings := { directory := "data", entryLimit := 2, byteLimit := 4 }
    let bare := FileTree.empty.set ["data"] .directory
    let d : Depot := ⟨⟨bare, .ofString "data", 0⟩, .empty 2 4, ""⟩
    let now := d.run [.put "a" ⟨#[1]⟩ .through]
    let s : Service := ⟨now, 8, ⟨0, 0⟩⟩
    Fresh settings bare d ∧
      now.qualify "a/b" = .ok "a/b" ∧
      now.archive.tree.file? (["data"] ++ names "a/b") = none ∧
      (now.get "a/b" .through).result = .error Errno.notDirectory.fault ∧
      (s.handle ⟨1, 0⟩ ⟨.get, ⟨"/blobs/a/b", ""⟩, ⟨[], none⟩⟩).response.status = 500 := by
  intro settings bare d now s
  refine ⟨fresh_of_directory (by decide) (by decide +kernel), ?_, ?_, ?_, ?_⟩ <;> decide +kernel

end Service

end BlobDepot
