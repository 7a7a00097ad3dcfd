import BlobDepot.Proofs.Depot.Prefixes
import BlobDepot.Proofs.FileTree.Growth

/-! # Opening a depot

The settings are looked at before the tree is touched, so a bad setup costs nothing on disk
(`openWith_badSetup`).  That the root is a file shows before anything is made as well; only an
operation that fails on the way leaves directories behind, and that is no fault of the setup.

An opened archive has a tree that has grown along the path of its root at most
(`grown_of_openAt`), and its root is there now.  So opening it once more finds all that is
needed and makes nothing (`openWith_again`).
-/

namespace BlobDepot

open FileTree

/-- A slash alone leads to the top, and the empty path leads nowhere. -/
theorem FileTree.stat_bare (t : FileTree) (absolute : Bool) : t.stat ⟨absolute, []⟩ =
    if absolute then .ok .directory else .error .noSuchEntry := by
  cases absolute <;> rfl

namespace Archive

variable {root : Path} {t tree : FileTree} {a : Archive} {f : Fault}

/-- An archive starts with the tree as it was, or with the missing root made. -/
theorem openAt_eq_ok (opened : (openAt root t).result = .ok a) :
    ∃ tree, a = { tree, root } ∧
      (t.stat root = .ok .directory ∧ tree = t ∨
        t.stat root = .error .noSuchEntry ∧ t.makeDirs root = (none, tree)) := by
  rw [openAt] at opened
  simp only at opened
  split at opened
  · rename_i there
    cases opened
    exact ⟨t, rfl, .inl ⟨there, rfl⟩⟩
  · cases opened
  · rename_i missing
    split at opened
    · rename_i made done
      cases opened
      exact ⟨made, rfl, .inr ⟨missing, done⟩⟩
    · cases opened
  · cases opened

theorem openAt_badSetup (failed : (openAt root t).result = .error (f, tree))
    (kind : f.kind = .badSetup) : tree = t := by
  rw [openAt] at failed
  simp only at failed
  split at failed
  · cases failed
  · cases failed
    rfl
  · split at failed
    · cases failed
    · -- What the file tree refuses is no bad setup.
      cases failed
      cases kind
  · cases failed
    rfl

theorem grown_of_openAt (opened : (openAt root t).result = .ok a) : Grown root t a.tree := by
  obtain ⟨tree, rfl, ⟨-, rfl⟩ | ⟨-, made⟩⟩ := openAt_eq_ok opened
  · exact .refl root tree
  · have grown := grown_makeDirs t root
    rw [made] at grown
    exact grown

theorem openAt_again (opened : (openAt root t).result = .ok a) :
    (openAt root a.tree).result = .ok a := by
  have seen := stat_of_openAt opened
  obtain ⟨tree, rfl, made⟩ := openAt_eq_ok opened
  obtain bare | there := seen
  · -- Without pieces the path is that of the top, or it is never found; nothing has to be made.
    have nothing : ∀ u : FileTree, u.makeDirs root = (none, u) := by
      intro u
      rw [makeDirs, Path.ancestors, if_pos bare, makeChain]
    obtain ⟨absolute, pieces⟩ := root
    cases bare
    rw [openAt, stat_bare, nothing]
    cases absolute <;> rfl
  · rw [openAt, there]

end Archive

namespace Depot

variable {settings : Settings} {t tree : FileTree} {d : Depot} {f : Fault}

theorem openWith_badSetup (failed : (openWith settings t).result = .error (f, tree))
    (kind : f.kind = .badSetup) : tree = t := by
  rw [openWith] at failed
  split at failed
  · cases failed
    rfl
  · split at failed
    · cases failed
      rfl
    · split at failed
      · rename_i log failure refused
        cases failed
        exact Archive.openAt_badSetup (by rw [refused]) kind
      · cases failed

theorem openWith_of_refused_prefix (positive : 0 < settings.entryLimit)
    (refused : checkPrefix settings.keyPrefix = .error f) :
    (openWith settings t).result = .error (f, t) := by
  rw [openWith, Cache.create_eq_ok_iff.mpr ⟨positive, rfl⟩, refused]

theorem openWith_of_file {data : ByteArray} (positive : 0 < settings.entryLimit)
    (usable : checkPrefix settings.keyPrefix = .ok ())
    (seen : t.stat (.ofString settings.directory) = .ok (.file data)) :
    (openWith settings t).result = .error (⟨.badSetup,
      "storage path " ++ (Path.ofString settings.directory).text ++ " is not a directory"⟩, t) := by
  rw [openWith, Cache.create_eq_ok_iff.mpr ⟨positive, rfl⟩, usable, Archive.openAt, seen]

theorem grown_of_openWith (opened : (openWith settings t).result = .ok d) :
    Grown (.ofString settings.directory) t d.archive.tree := by
  have fresh : Fresh settings t d := .inl opened
  exact Archive.grown_of_openAt fresh.parts.2.1

/-- A depot that was opened is opened again on the tree that it left, and as it was. -/
theorem openWith_again (opened : (openWith settings t).result = .ok d) :
    (openWith settings d.archive.tree).result = .ok d := by
  have fresh : Fresh settings t d := .inl opened
  obtain ⟨positive, root, cache, keyPrefix⟩ := fresh.parts
  have usable := checkPrefix_of_opened opened
  have created : Cache.create settings.entryLimit settings.byteLimit = .ok d.cache :=
    Cache.create_eq_ok_iff.mpr ⟨positive, cache⟩
  -- Limits and prefix are accepted as before, and the root is there now.
  have again := Archive.openAt_again root
  rw [openWith, created, usable]
  obtain ⟨archive, _, _⟩ := d
  cases keyPrefix
  simp only at again ⊢
  split
  · rename_i log failure refused
    rw [refused] at again
    cases again
  · rename_i log a found
    rw [found] at again
    cases again
    rfl

end Depot

end BlobDepot
