import BlobDepot.Proofs.KeyPrefixes
import BlobDepot.Proofs.Depot.Faithful

/-! # Keys behind a prefix

A depot puts its prefix in front of every key, and checks the key before and after.  Opening
checks the prefix, but without the slashes at its end.  So it accepts prefixes that no key can
follow: two slashes, or a slash alone, make an empty segment, and a prefix of the greatest
length leaves no room.  A prefix that joins, with room behind it, is good for every key that
fits (`opened_accepts_iff`).
-/

namespace BlobDepot.Depot

open BlobKey

/-- Neither reads nor writes are refused for this key. -/
def Accepts (d : Depot) (key : String) : Prop :=
  (∀ use f, (d.get key use).result = .error f → f.kind ≠ .badRequest) ∧
    ∀ data use f, (d.put key data use).result = .error f → f.kind ≠ .badRequest

variable {d : Depot} {key full : String}

theorem exists_errno_of_fetch_error {use : CacheUse} {f : Fault}
    (failed : (d.fetch full use).result = .error f) : ∃ e : Errno, f = e.fault := by
  rw [fetch_result] at failed
  cases read : d.archive.read full with
  | error g =>
    rw [read] at failed
    cases failed
    exact Archive.exists_errno_of_read_error read
  | ok found =>
    rw [read] at failed
    cases failed

/-- Once the key is qualified, only the file tree can refuse a read. -/
theorem exists_errno_of_get_error (qualified : d.qualify key = .ok full) {use : CacheUse} {f : Fault}
    (failed : (d.get key use).result = .error f) : ∃ e : Errno, f = e.fault := by
  rw [get, qualified] at failed
  cases use with
  | around => exact exists_errno_of_fetch_error failed
  | through =>
    simp only at failed
    split at failed
    · cases failed
    · exact exists_errno_of_fetch_error failed

theorem exists_errno_of_put_error (qualified : d.qualify key = .ok full) {data : ByteArray}
    {use : CacheUse} {f : Fault} (failed : (d.put key data use).result = .error f) :
    ∃ e : Errno, f = e.fault := by
  rw [put_result, qualified] at failed
  simp only [Except.bind] at failed
  cases written : (d.archive.write full data).1 with
  | error g =>
    rw [written] at failed
    cases failed
    exact Archive.exists_errno_of_write_error written
  | ok done =>
    rw [written] at failed
    cases failed

theorem accepts_iff : d.Accepts key ↔ ∃ full, d.qualify key = .ok full := by
  constructor
  · intro accepts
    cases qualified : d.qualify key with
    | error f =>
      obtain ⟨defect, rfl⟩ := exists_defect_of_qualify_error qualified
      exact absurd rfl (accepts.1 .around _ (get_result_of_error qualified .around))
    | ok full => exact ⟨full, rfl⟩
  · rintro ⟨full, qualified⟩
    constructor
    · intro use f failed
      obtain ⟨e, rfl⟩ := exists_errno_of_get_error qualified failed
      exact nofun
    · intro data use f failed
      obtain ⟨e, rfl⟩ := exists_errno_of_put_error qualified failed
      exact nofun

theorem checkPrefix_of_opened {settings : Settings} {t : FileTree}
    (opened : (openWith settings t).result = .ok d) : checkPrefix settings.keyPrefix = .ok () := by
  rw [openWith] at opened
  split at opened
  · cases opened
  · split at opened
    · cases opened
    · assumption

/-- Take a depot as it was opened, after any calls.  Whether it accepts a key for which there
    is room behind its prefix depends on the prefix alone: it must be empty, or a key, or a
    key and one slash.  There are such keys exactly if the prefix is shorter than a key may
    be. -/
theorem opened_accepts_iff {settings : Settings} {t : FileTree}
    (opened : (openWith settings t).result = .ok d) (calls : List Call) :
    let room := fun key => Valid key ∧
      settings.keyPrefix.utf8ByteSize + key.utf8ByteSize ≤ maxBytes
    (∀ key, room key → ((d.run calls).Accepts key ↔ Joins settings.keyPrefix)) ∧
      ((∃ key, room key) ↔ settings.keyPrefix.utf8ByteSize < maxBytes) := by
  have fresh : Fresh settings t d := .inl opened
  obtain ⟨_, _, _, keyPrefix⟩ := fresh.parts
  refine ⟨fun key ⟨valid, short⟩ => ?_, exists_valid_short_iff⟩
  rw [accepts_iff, ← valid_append_iff (checkPrefix_of_opened opened) valid short]
  constructor
  · rintro ⟨full, qualified⟩
    have whole := (qualify_eq_ok_iff.mp qualified).2.1
    rwa [keyPrefix_run, keyPrefix] at whole
  · intro whole
    refine ⟨_, qualify_eq_ok_iff.mpr ⟨valid, ?_, rfl⟩⟩
    rwa [keyPrefix_run, keyPrefix]

/-- A prefix with a slash at its end, after a write under it. -/
theorem opened_accepts_iff_of_cards :
    let settings : Settings :=
      { directory := "data", keyPrefix := "cards/", entryLimit := 2, byteLimit := 4 }
    let t := FileTree.empty.set ["data"] .directory
    let d : Depot := ⟨⟨t, .ofString "data", 0⟩, .empty 2 4, "cards/"⟩
    (openWith settings t).result = .ok d ∧ Valid "1/a.png" ∧
      settings.keyPrefix.utf8ByteSize + "1/a.png".utf8ByteSize ≤ maxBytes ∧
      (d.run [.put "1/a.png" ⟨#[1]⟩ .through]).Accepts "1/a.png" ∧
      (∃ key, Valid key ∧ settings.keyPrefix.utf8ByteSize + key.utf8ByteSize ≤ maxBytes) := by
  intro settings t d
  have opened : (openWith settings t).result = .ok d :=
    openWith_of_directory (by decide) (by decide +kernel) (by decide +kernel)
  have valid : Valid "1/a.png" := by decide +kernel
  have short : settings.keyPrefix.utf8ByteSize + "1/a.png".utf8ByteSize ≤ maxBytes := by
    decide +kernel
  have joins : Joins settings.keyPrefix := .inr (.inr ⟨"cards", by decide +kernel, rfl⟩)
  have main := opened_accepts_iff opened [.put "1/a.png" ⟨#[1]⟩ .through]
  exact ⟨opened, valid, short, (main.1 "1/a.png" ⟨valid, short⟩).mpr joins, _, valid, short⟩

/-- A prefix with two slashes at its end is accepted, and no key after it. -/
theorem opened_refuses_behind_slashes :
    let settings : Settings :=
      { directory := "data", keyPrefix := "cards//", entryLimit := 2, byteLimit := 4 }
    let t := FileTree.empty.set ["data"] .directory
    let d : Depot := ⟨⟨t, .ofString "data", 0⟩, .empty 2 4, "cards//"⟩
    (openWith settings t).result = .ok d ∧ Valid "a" ∧
      settings.keyPrefix.utf8ByteSize + "a".utf8ByteSize ≤ maxBytes ∧
      (d.get "a" .around).result = .error (Defect.badSegment "cards//a").fault ∧
      ¬ d.Accepts "a" := by
  intro settings t d
  have opened : (openWith settings t).result = .ok d :=
    openWith_of_directory (by decide) (by decide +kernel) (by decide +kernel)
  have refused : (d.get "a" .around).result = .error (Defect.badSegment "cards//a").fault := by
    decide +kernel
  refine ⟨opened, by decide +kernel, by decide +kernel, refused, fun accepts => ?_⟩
  exact accepts.1 _ _ refused rfl

end BlobDepot.Depot
