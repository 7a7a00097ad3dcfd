import BlobDepot.Proofs.Depot.Faithful

/-! # The depot as a map

A ledger notes for each full key the bytes that it should have: those of the files that
are there at first, and from then on what the writes report.  A write that succeeds sets
its key to its bytes, and nothing else changes the ledger.

The ledger is right: after any sequence of calls it says what the archive holds
(`Faithful.ledger_eq`), each write having altered no more than the file of its key.  The
depot answers by it, through the cache and around it, and its cache holds nothing else
(`Faithful.serves`).
-/

namespace BlobDepot

open BlobKey FileTree

/-- For each full key the bytes that it has, if any. -/
abbrev Ledger := String → Option ByteArray

/-- The files in an archive to which valid keys lead. -/
def Archive.holdings (a : Archive) : Ledger := fun full =>
  if Valid full then a.blob? full else none

namespace Depot

open Archive

/-- The ledger after a call.  Only a write that succeeds is noted. -/
def record (d : Depot) (M : Ledger) : Call → Ledger
  | .get _ _ => M
  | .put key data use =>
    match (d.put key data use).result with
    | .error _ => M
    | .ok _ => fun full => if full = d.keyPrefix ++ key then some data else M full

/-- The ledger after a sequence of calls. -/
def ledger (d : Depot) (M : Ledger) : List Call → Ledger
  | [] => M
  | call :: calls => (d.step call).2.ledger (d.record M call) calls

/-- The depot answers by a ledger. -/
structure Serves (d : Depot) (M : Ledger) : Prop where
  /-- What the ledger has is read, byte by byte. -/
  found : ∀ key use v, Valid key → M (d.keyPrefix ++ key) = some v →
    ∃ source, (d.get key use).result = .ok (some ⟨v, source⟩)
  /-- What the ledger has not is never read. -/
  absent : ∀ key use delivery, M (d.keyPrefix ++ key) = none →
    (d.get key use).result ≠ .ok (some delivery)
  /-- A write that succeeds tells the size of its bytes. -/
  sized : ∀ key data use size, (d.put key data use).result = .ok size → size = data.size
  /-- Every entry of the cache is in the ledger. -/
  cached : ∀ i e, d.cache.dial.occupant? i = some e → M e.key = some e.value

variable {a a' : Archive} {d : Depot} {base : Location} {full : String} {v : ByteArray}

/-! ## Holdings -/

theorem holdings_eq_some_iff : a.holdings full = some v ↔ Valid full ∧ a.blob? full = some v := by
  simp [holdings]

theorem holdings_of_alters (mounted : a.Mounted base) (rooted : a.tree.Rooted)
    {S : Location → Prop} (alters : Alters S a.tree a'.tree) (root : a'.root = a.root)
    (outside : Valid full → ¬ S (base ++ names full)) : a'.holdings full = a.holdings full := by
  rw [holdings, holdings]
  split
  · rename_i valid
    exact Option.ext fun v => mounted.blob?_alters_iff rooted valid alters root (outside valid)
  · rfl

/-- At first the ledger has the files of the tree below the root directory, as far as their
    names are keys and their paths are short enough to be looked up. -/
theorem Fresh.holdings_eq_some_iff {settings : Settings} {t : FileTree}
    (fresh : Fresh settings t d) (rooted : t.Rooted) (mounted : d.archive.Mounted base) :
    d.archive.holdings full = some v ↔ Valid full ∧
      (∃ found, namesOf (d.archive.path full) = .ok found) ∧
      (∀ name ∈ names full, name.utf8ByteSize ≤ maxNameBytes) ∧
      t.node? (base ++ names full) = some (.file v) := by
  obtain ⟨_, opened, _⟩ := fresh.parts
  have files := (openAt_ok opened).2.2.files (base ++ names full) v id
  rw [Depot.holdings_eq_some_iff]
  refine and_congr_right fun valid => ?_
  have plain : ∀ name ∈ names full, Plain name := fun _ => plain_of_mem_names valid
  rw [mounted.blob?_eq_some_iff valid]
  refine and_congr_right fun _ => ⟨fun led => ?_, fun ⟨short, stands⟩ => ?_⟩
  · have stands := node?_of_walkFrom (node?_of_walk mounted) led
    exact ⟨(place_of_walkFrom plain led).2, files.mp stands⟩
  · exact (rooted_openAt rooted opened).walkFrom (node?_of_walk mounted) plain short
      (files.mpr stands)

/-! ## The ledger is right -/

theorem Faithful.record_eq (faithful : d.Faithful) (rooted : d.archive.tree.Rooted) (call : Call) :
    d.record d.archive.holdings call = (d.step call).2.archive.holdings := by
  obtain ⟨base, mounted⟩ := faithful.mounted
  cases call with
  | get key use =>
    obtain ⟨cache, same⟩ := get_depot d key use
    show d.archive.holdings = (d.get key use).depot.archive.holdings
    rw [same]
  | put key data use =>
    show d.record d.archive.holdings (.put key data use) =
      (d.put key data use).depot.archive.holdings
    rw [record, put_result, archive_put]
    cases qualified : d.qualify key with
    | error f => rfl
    | ok full =>
      obtain ⟨_, valid, rfl⟩ := qualify_eq_ok_iff.mp qualified
      funext k
      simp only [Except.bind]
      cases written : d.archive.write (d.keyPrefix ++ key) data with
      | mk result archive =>
        cases result with
        | error f =>
          -- What a failed write leaves behind at dotted places is no blob.
          obtain ⟨alters, root⟩ := alters_write_error written
          exact (holdings_of_alters mounted rooted alters root
            fun validk => not_dotted_names validk base).symm
        | ok done =>
          obtain ⟨alters, root, stored⟩ := mounted.write_ok valid written
          simp only [Except.map]
          split
          · rename_i same
            subst same
            exact (Depot.holdings_eq_some_iff.mpr ⟨valid, stored⟩).symm
          · rename_i other
            exact (holdings_of_alters mounted rooted alters root
              fun validk => untouched validk other).symm

theorem rooted_step (rooted : d.archive.tree.Rooted) (call : Call) :
    (d.step call).2.archive.tree.Rooted :=
  kept_step (P := fun a => a.tree.Rooted) (fun data _ rooted => rooted_write rooted _ data) rooted call

theorem Faithful.ledger_eq (faithful : d.Faithful) (rooted : d.archive.tree.Rooted)
    (calls : List Call) : d.ledger d.archive.holdings calls = (d.run calls).archive.holdings := by
  induction calls generalizing d with
  | nil => rfl
  | cons call calls ih =>
    rw [ledger, run_cons, faithful.record_eq rooted call]
    exact ih (faithful.step call) (rooted_step rooted call)

/-- What a reader gets is what the archive holds. -/
theorem Faithful.holdings_of_get (faithful : d.Faithful) {key : String} {use : CacheUse}
    {delivery : Delivery} (result : (d.get key use).result = .ok (some delivery)) :
    d.archive.holdings (d.keyPrefix ++ key) = some delivery.data := by
  cases qualified : d.qualify key with
  | error f =>
    rw [get_result_of_error qualified] at result
    cases result
  | ok full =>
    obtain ⟨_, whole, rfl⟩ := qualify_eq_ok_iff.mp qualified
    obtain ⟨source, answered⟩ := faithful.get_result qualified use
    rw [result] at answered
    cases read : d.archive.read (d.keyPrefix ++ key) with
    | error f =>
      rw [read] at answered
      cases answered
    | ok blob =>
      cases blob with
      | none =>
        rw [read] at answered
        cases answered
      | some v =>
        rw [read] at answered
        cases answered
        exact Depot.holdings_eq_some_iff.mpr ⟨whole, read_eq_ok_some_iff.mp read⟩

theorem Faithful.serves (faithful : d.Faithful) : d.Serves d.archive.holdings where
  found := by
    intro key use v valid held
    obtain ⟨whole, stored⟩ := Depot.holdings_eq_some_iff.mp held
    have qualified := qualify_eq_ok_iff.mpr ⟨valid, whole, rfl⟩
    obtain ⟨source, result⟩ := faithful.get_result qualified use
    rw [read_eq_ok_some_iff.mpr stored] at result
    exact ⟨source, result⟩
  absent := by
    intro key use delivery missing result
    have held := faithful.holdings_of_get result
    rw [missing] at held
    cases held
  sized := fun _ _ _ _ => size_of_put_ok
  cached := by
    intro i e occupied
    have consistent := faithful.coherent.toConsistent
    have held : d.cache.value? e.key = some e.value := by
      refine consistent.value?_eq_some_iff.mpr ⟨i, e.unmark, ?_, rfl, rfl⟩
      rw [Cache.Dial.content?, occupied]
      rfl
    exact Depot.holdings_eq_some_iff.mpr (faithful.cached e.key e.value held)

/-- A depot opened on a tree implements a map from keys to bytes.  After any sequence of
    calls it answers by the ledger that began with the files of that tree to which valid keys
    lead, whichever of the calls went through the cache. -/
theorem ledger_served {settings : Settings} {t : FileTree} (fresh : Fresh settings t d)
    (rooted : t.Rooted) (calls : List Call) :
    (d.run calls).keyPrefix = settings.keyPrefix ∧
      (∃ base, d.archive.Mounted base ∧ ∀ full v, d.archive.holdings full = some v ↔
        Valid full ∧ (∃ found, namesOf (d.archive.path full) = .ok found) ∧
        (∀ name ∈ names full, name.utf8ByteSize ≤ maxNameBytes) ∧
        t.node? (base ++ names full) = some (.file v)) ∧
      (d.run calls).Serves (d.ledger d.archive.holdings calls) := by
  obtain ⟨_, opened, _, keyPrefix⟩ := fresh.parts
  refine ⟨?_, ?_, ?_⟩
  · rw [keyPrefix_run, keyPrefix]
  · obtain ⟨base, mounted⟩ := fresh.faithful.mounted
    exact ⟨base, mounted, fun _ _ => fresh.holdings_eq_some_iff rooted mounted⟩
  · rw [fresh.faithful.ledger_eq (rooted_openAt rooted opened) calls]
    exact (fresh.faithful.run calls).serves

/-- A file that was there at first is read from the archive and then from the cache; a
    write around the cache replaces one that was cached; a key below a file finds
    nothing. -/
theorem ledger_served_of_planted :
    let t := (FileTree.empty.set ["blobs"] .directory).set ["blobs", "old"] (.file ⟨#[7]⟩)
    let settings : Settings := { directory := "blobs", entryLimit := 2, byteLimit := 4 }
    let d : Depot := ⟨⟨t, .ofString "blobs", 0⟩, .empty 2 4, ""⟩
    let calls : List Call := [.get "old" .through, .put "new/one" ⟨#[1]⟩ .through,
      .put "new/one" ⟨#[2, 3]⟩ .around, .put "old/below" ⟨#[4]⟩ .through]
    Fresh settings t d ∧ t.Rooted ∧
      (∃ base, d.archive.Mounted base ∧ t.node? (base ++ ["old"]) = some (.file ⟨#[7]⟩)) ∧
      (d.run calls).Serves (d.ledger d.archive.holdings calls) ∧
      d.ledger d.archive.holdings calls "old" = some ⟨#[7]⟩ ∧
      d.ledger d.archive.holdings calls "new/one" = some ⟨#[2, 3]⟩ ∧
      d.ledger d.archive.holdings calls "old/below" = none := by
  intro t settings d calls
  have seen : t.stat (.ofString "blobs") = .ok .directory := by decide +kernel
  have fresh : Fresh settings t d := by
    left
    simp only [openWith, Archive.openAt, settings, seen]
    rfl
  have above : (FileTree.empty.set ([] ++ ["blobs"]) .directory).Rooted :=
    rooted_empty.set rfl (by decide +kernel)
  have rooted : ((FileTree.empty.set ["blobs"] .directory).set (["blobs"] ++ ["old"])
      (.file ⟨#[7]⟩)).Rooted := above.set (by decide +kernel) (by decide +kernel)
  obtain ⟨-, ⟨base, mounted, files⟩, serves⟩ := ledger_served fresh rooted calls
  have held : d.archive.holdings "old" = some ⟨#[7]⟩ := by decide +kernel
  have stands := ((files "old" ⟨#[7]⟩).mp held).2.2.2
  rw [show names "old" = ["old"] by decide +kernel] at stands
  refine ⟨fresh, rooted, ⟨base, mounted, stands⟩, serves, ?_, ?_, ?_⟩ <;> decide +kernel

end Depot

end BlobDepot
