import BlobDepot.Depot
import BlobDepot.Proofs.Archive.Reach
import BlobDepot.Proofs.Cache.Contents

/-! # Faithful depots

A depot is faithful when its cache holds nothing but what the archive has: every cached
blob is stored under its key with the same bytes.  Every call keeps a depot faithful
(`Faithful.step`), also one that fails half-way.  A read through the cache may admit
what it just read; a write through the cache replaces the cached bytes after the stored
ones; a write around the cache drops them; and a write that fails disturbs no blob.

In a faithful depot nobody can tell from the bytes whether they were cached
(`Faithful.get_result`).
-/

namespace BlobDepot

open BlobKey

/-- A write under one key leaves the places of the other keys alone. -/
theorem Archive.untouched {base : Location} {key k : String} (valid : Valid k) (other : k ≠ key) :
    ¬ (Dotted (base ++ names k) ∨ base ++ names k = base ++ names key) := by
  intro touched
  cases touched with
  | inl dotted => exact not_dotted_names valid base dotted
  | inr same => exact other (names_injective (List.append_cancel_left same))

namespace Depot

open Archive

/-- Every cached blob is stored under its key with the same bytes. -/
structure Faithful (d : Depot) : Prop where
  coherent : d.cache.Coherent
  mounted : ∃ base, d.archive.Mounted base
  cached : ∀ full v, d.cache.value? full = some v → Valid full ∧ d.archive.blob? full = some v

variable {d d' : Depot} {key full : String} {data : ByteArray} {use : CacheUse}

theorem qualify_eq_ok_iff : d.qualify key = .ok full ↔
    Valid key ∧ Valid (d.keyPrefix ++ key) ∧ full = d.keyPrefix ++ key := by
  rw [qualify]
  split
  · rename_i f wrong
    have invalid : ¬ Valid key := by
      rw [← check_eq_ok_iff, wrong]
      simp
    simp [invalid]
  · rename_i fine
    split
    · rename_i f wrong
      have invalid : ¬ Valid (d.keyPrefix ++ key) := by
        rw [← check_eq_ok_iff, wrong]
        simp
      simp [invalid]
    · rename_i whole
      simp [check_eq_ok_iff.mp fine, check_eq_ok_iff.mp whole, eq_comm]

theorem exists_defect_of_qualify_error {f : Fault} (refused : d.qualify key = .error f) :
    ∃ defect : Defect, f = defect.fault := by
  rw [qualify] at refused
  split at refused
  · cases refused
    exact exists_defect_of_check_error ‹_›
  · split at refused
    · cases refused
      exact exists_defect_of_check_error ‹_›
    · cases refused

/-! ## Reading -/

theorem remember_snd (d : Depot) (full : String) (data : ByteArray) :
    (d.remember full data).2 = { d with cache := (d.cache.set full data).cache } := rfl

theorem Faithful.remember (faithful : d.Faithful) (valid : Valid full)
    (stored : d.archive.blob? full = some data) : (d.remember full data).2.Faithful := by
  rw [remember_snd]
  refine ⟨faithful.coherent.set full data, faithful.mounted, fun k v held => ?_⟩
  cases faithful.coherent.value?_set held with
  | inl new =>
    obtain ⟨rfl, rfl⟩ := new
    exact ⟨valid, stored⟩
  | inr older => exact faithful.cached k v older.2

theorem Faithful.noticed (faithful : d.Faithful) (full : String) :
    { d with cache := (d.cache.get full).2 }.Faithful := by
  refine ⟨faithful.coherent.get full, faithful.mounted, fun k v held => ?_⟩
  rw [Cache.value?_get faithful.coherent] at held
  exact faithful.cached k v held

theorem fetch_result (d : Depot) (full : String) (use : CacheUse) :
    (d.fetch full use).result = (d.archive.read full).map (Option.map (⟨·, .archive⟩)) := by
  rw [fetch]
  cases d.archive.read full with
  | error f => rfl
  | ok found =>
    cases found with
    | none => rfl
    | some data => cases use <;> rfl

theorem Faithful.fetch (faithful : d.Faithful) (valid : Valid full) (use : CacheUse) :
    (d.fetch full use).depot.Faithful := by
  rw [Depot.fetch]
  split
  · exact faithful
  · exact faithful
  · rename_i data there
    cases use with
    | around => exact faithful
    | through =>
      -- What is admitted is what the archive holds.
      exact faithful.remember valid (read_eq_ok_some_iff.mp there)

/-- Reading answers what the archive holds, from wherever the bytes come. -/
theorem Faithful.get_result (faithful : d.Faithful) (qualified : d.qualify key = .ok full)
    (use : CacheUse) :
    ∃ source, (d.get key use).result = (d.archive.read full).map (Option.map (⟨·, source⟩)) := by
  rw [Depot.get, qualified]
  cases use with
  | around => exact ⟨.archive, fetch_result d full .around⟩
  | through =>
    simp only
    split
    · -- A hit: the cached bytes are the stored ones.
      rename_i v cache hit
      have held : d.cache.value? full = some v := by
        rw [← Cache.get_fst, hit]
      have there := read_eq_ok_some_iff.mpr (faithful.cached full v held).2
      exact ⟨.cache, by rw [there]; rfl⟩
    · exact ⟨.archive, fetch_result _ full .through⟩

theorem get_result_of_error {f : Fault} (refused : d.qualify key = .error f) (use : CacheUse) :
    (d.get key use).result = .error f := by
  rw [get, refused]

theorem fetch_depot (d : Depot) (full : String) (use : CacheUse) :
    ∃ cache, (d.fetch full use).depot = { d with cache } := by
  rw [fetch]
  split
  · exact ⟨d.cache, rfl⟩
  · exact ⟨d.cache, rfl⟩
  · cases use with
    | around => exact ⟨d.cache, rfl⟩
    | through => exact ⟨_, rfl⟩

theorem get_depot (d : Depot) (key : String) (use : CacheUse) :
    ∃ cache, (d.get key use).depot = { d with cache } := by
  rw [get]
  split
  · exact ⟨d.cache, rfl⟩
  · rename_i full qualified
    cases use with
    | around => exact fetch_depot d full .around
    | through =>
      simp only
      split
      · exact ⟨_, rfl⟩
      · rename_i seen miss
        obtain ⟨cache, same⟩ := fetch_depot { d with cache := seen } full .through
        exact ⟨cache, same⟩

theorem Faithful.get (faithful : d.Faithful) (key : String) (use : CacheUse) :
    (d.get key use).depot.Faithful := by
  rw [Depot.get]
  split
  · exact faithful
  · rename_i full qualified
    obtain ⟨_, valid, rfl⟩ := qualify_eq_ok_iff.mp qualified
    cases use with
    | around => exact faithful.fetch valid .around
    | through =>
      have noticed := faithful.noticed (d.keyPrefix ++ key)
      simp only
      split
      · rename_i v cache hit
        rwa [hit] at noticed
      · rename_i cache miss
        rw [miss] at noticed
        exact noticed.fetch valid .through

/-! ## Writing -/

theorem put_result (d : Depot) (key : String) (data : ByteArray) (use : CacheUse) :
    (d.put key data use).result = (d.qualify key).bind fun full =>
      (d.archive.write full data).1.map fun _ => data.size := by
  rw [put]
  cases d.qualify key with
  | error f => rfl
  | ok full =>
    simp only [Except.bind]
    cases d.archive.write full data with
    | mk result archive =>
      cases result with
      | error f => rfl
      | ok done => cases use <;> rfl

theorem put_of_invalid (invalid : ¬ (Valid key ∧ Valid (d.keyPrefix ++ key))) (data : ByteArray)
    (use : CacheUse) : ∃ defect : Defect, d.put key data use = ⟨.error defect.fault, [], d⟩ := by
  rw [put]
  cases qualified : d.qualify key with
  | error f =>
    obtain ⟨defect, rfl⟩ := exists_defect_of_qualify_error qualified
    exact ⟨defect, rfl⟩
  | ok full =>
    obtain ⟨plain, whole, _⟩ := qualify_eq_ok_iff.mp qualified
    exact absurd ⟨plain, whole⟩ invalid

theorem put_result_of_valid (valid : Valid key ∧ Valid (d.keyPrefix ++ key)) (data : ByteArray)
    (use : CacheUse) : (d.put key data use).result =
      (d.archive.write (d.keyPrefix ++ key) data).1.map fun _ => data.size := by
  rw [put_result, qualify_eq_ok_iff.mpr ⟨valid.1, valid.2, rfl⟩]
  rfl

theorem size_of_put_ok {size : Nat} (stored : (d.put key data use).result = .ok size) :
    size = data.size := by
  rw [put_result] at stored
  cases qualified : d.qualify key with
  | error f =>
    rw [qualified] at stored
    cases stored
  | ok full =>
    rw [qualified] at stored
    simp only [Except.bind] at stored
    cases written : (d.archive.write full data).1 with
    | error f =>
      rw [written] at stored
      cases stored
    | ok done =>
      rw [written] at stored
      exact (Except.ok.inj stored).symm

theorem archive_put (d : Depot) (key : String) (data : ByteArray) (use : CacheUse) :
    (d.put key data use).depot.archive =
      match d.qualify key with
      | .error _ => d.archive
      | .ok full => (d.archive.write full data).2 := by
  rw [put]
  cases d.qualify key with
  | error f => rfl
  | ok full =>
    simp only
    cases d.archive.write full data with
    | mk result archive =>
      cases result with
      | error f => rfl
      | ok done => cases use <;> rfl

theorem Faithful.put (faithful : d.Faithful) (key : String) (data : ByteArray) (use : CacheUse) :
    (d.put key data use).depot.Faithful := by
  obtain ⟨base, mounted⟩ := faithful.mounted
  rw [Depot.put]
  split
  · exact faithful
  rename_i full qualified
  obtain ⟨_, valid, rfl⟩ := qualify_eq_ok_iff.mp qualified
  split
  · -- A failed write leaves every blob as it was.
    rename_i f archive failed
    obtain ⟨alters, root⟩ := alters_write_error failed
    refine ⟨faithful.coherent, ⟨base, mounted.of_alters alters root⟩, fun k v held => ?_⟩
    obtain ⟨validk, stored⟩ := faithful.cached k v held
    exact ⟨validk, mounted.blob?_of_alters validk alters root (not_dotted_names validk base) stored⟩
  · -- A write that succeeded alters the place of its key only.
    rename_i archive done
    obtain ⟨alters, root, written⟩ := mounted.write_ok valid done
    have mounted' : archive.Mounted base := mounted.of_alters alters root
    have others : ∀ k v, k ≠ d.keyPrefix ++ key → d.cache.value? k = some v →
        Valid k ∧ archive.blob? k = some v := by
      intro k v other held
      obtain ⟨validk, stored⟩ := faithful.cached k v held
      exact ⟨validk, mounted.blob?_of_alters validk alters root (untouched validk other) stored⟩
    cases use with
    | around =>
      -- The cache forgets the key, whose bytes are others now.
      refine ⟨?_, ⟨base, mounted'⟩, fun k v held => ?_⟩
      · exact (faithful.coherent.step (.forget (d.keyPrefix ++ key))).1
      · obtain ⟨other, older⟩ := faithful.coherent.toConsistent.value?_forget.mp held
        exact others k v other older
    | through =>
      -- What the cache holds of the key is what was written, or nothing.
      refine ⟨faithful.coherent.set _ data, ⟨base, mounted'⟩, fun k v held => ?_⟩
      cases faithful.coherent.value?_set held with
      | inl new =>
        obtain ⟨rfl, rfl⟩ := new
        exact ⟨valid, written⟩
      | inr older => exact others k v older.1 older.2

/-! ## Runs -/

/-- What writes under valid keys keep of an archive, calls to the depot keep. -/
theorem kept_step {P : Archive → Prop}
    (keeps : ∀ {a : Archive} {full : String} (data : ByteArray), Valid full → P a →
      P (a.write full data).2) (h : P d.archive) (call : Call) : P (d.step call).2.archive := by
  cases call with
  | get key use =>
    obtain ⟨cache, same⟩ := get_depot d key use
    show P (d.get key use).depot.archive
    rwa [same]
  | put key data use =>
    show P (d.put key data use).depot.archive
    rw [archive_put]
    split
    · exact h
    · rename_i full qualified
      obtain ⟨_, valid, rfl⟩ := qualify_eq_ok_iff.mp qualified
      exact keeps data valid h

theorem kept_run {P : Archive → Prop}
    (keeps : ∀ {a : Archive} {full : String} (data : ByteArray), Valid full → P a →
      P (a.write full data).2) (h : P d.archive) (calls : List Call) : P (d.run calls).archive := by
  induction calls generalizing d with
  | nil => exact h
  | cons call calls ih => exact ih (kept_step keeps h call)

theorem keyPrefix_step (d : Depot) (call : Call) : (d.step call).2.keyPrefix = d.keyPrefix := by
  cases call with
  | get key use =>
    obtain ⟨cache, same⟩ := get_depot d key use
    rw [step, same]
  | put key data use =>
    simp only [step, put]
    split
    · rfl
    · split
      · rfl
      · cases use <;> rfl

theorem keyPrefix_run (d : Depot) (calls : List Call) : (d.run calls).keyPrefix = d.keyPrefix := by
  induction calls generalizing d with
  | nil => rfl
  | cons call calls ih => rw [run_cons, ih, keyPrefix_step]

theorem Faithful.step (faithful : d.Faithful) (call : Call) : (d.step call).2.Faithful := by
  cases call with
  | get key use => exact faithful.get key use
  | put key data use => exact faithful.put key data use

theorem Faithful.run (faithful : d.Faithful) (calls : List Call) : (d.run calls).Faithful := by
  induction calls generalizing d with
  | nil => exact faithful
  | cons call calls ih => exact ih (faithful.step call)

/-! ## Opening -/

/-- A depot as it is opened on a tree, by either of the ways to open one. -/
def Fresh (settings : Settings) (t : FileTree) (d : Depot) : Prop :=
  (openWith settings t).result = .ok d ∨ (assemble settings t).result = .ok d

theorem exists_fresh {settings : Settings} {t : FileTree}
    (opens : (openWith settings t).result.toBool = true) : ∃ d, Fresh settings t d := by
  cases opened : (openWith settings t).result with
  | error failure =>
    rw [opened] at opens
    cases opens
  | ok d => exact ⟨d, .inl opened⟩

theorem openWith_of_directory {settings : Settings} {t : FileTree}
    (positive : 0 < settings.entryLimit) (usable : checkPrefix settings.keyPrefix = .ok ())
    (seen : t.stat (.ofString settings.directory) = .ok .directory) :
    (openWith settings t).result = .ok ⟨⟨t, .ofString settings.directory, 0⟩,
      .empty settings.entryLimit settings.byteLimit, settings.keyPrefix⟩ := by
  rw [openWith, openAt, seen, usable, Cache.create_eq_ok_iff.mpr ⟨positive, rfl⟩]

theorem fresh_of_directory {settings : Settings} {t : FileTree} (positive : 0 < settings.entryLimit)
    (seen : t.stat (.ofString settings.directory) = .ok .directory) :
    Fresh settings t ⟨⟨t, .ofString settings.directory, 0⟩,
      .empty settings.entryLimit settings.byteLimit, settings.keyPrefix⟩ := by
  right
  rw [assemble, openAt, seen]
  simp only [Cache.create_eq_ok_iff.mpr ⟨positive, rfl⟩]

/-- A fresh depot has an archive as `Archive.openAt` opens it, and an empty cache. -/
theorem Fresh.parts {settings : Settings} {t : FileTree} (fresh : Fresh settings t d) :
    0 < settings.entryLimit ∧ (openAt (.ofString settings.directory) t).result = .ok d.archive ∧
      d.cache = .empty settings.entryLimit settings.byteLimit ∧ d.keyPrefix = settings.keyPrefix := by
  cases fresh with
  | inl opened =>
    rw [openWith] at opened
    split at opened
    · cases opened
    · rename_i cache made
      obtain ⟨positive, rfl⟩ := Cache.create_eq_ok_iff.mp made
      split at opened
      · cases opened
      · split at opened
        · cases opened
        · rename_i log archive mounted
          cases opened
          exact ⟨positive, by rw [mounted], rfl, rfl⟩
  | inr opened =>
    rw [assemble] at opened
    split at opened
    · cases opened
    · rename_i log archive mounted
      split at opened
      · cases opened
      · rename_i cache made
        obtain ⟨positive, rfl⟩ := Cache.create_eq_ok_iff.mp made
        cases opened
        exact ⟨positive, by rw [mounted], rfl, rfl⟩

/-- A depot that was opened in a file system stays settled there. -/
theorem Fresh.settled_run {settings : Settings} {t : FileTree} {base : Location}
    (fresh : Fresh settings t d) (rooted : t.Rooted) (mounted : d.archive.Mounted base)
    (calls : List Call) : (d.run calls).archive.Settled base := by
  obtain ⟨_, opened, _⟩ := fresh.parts
  exact kept_run (P := fun a => a.Settled base)
    (fun data valid settled => settled.after_write valid data) (.of_openAt opened rooted mounted) calls

theorem Fresh.faithful {settings : Settings} {t : FileTree} (fresh : Fresh settings t d) :
    d.Faithful := by
  obtain ⟨positive, opened, cache, _⟩ := fresh.parts
  refine ⟨?_, (openAt_ok opened).2.1, fun full v held => ?_⟩
  · rw [cache]
    exact Cache.coherent_empty positive _
  · rw [cache, Cache.value?_empty] at held
    cases held

end Depot

end BlobDepot
