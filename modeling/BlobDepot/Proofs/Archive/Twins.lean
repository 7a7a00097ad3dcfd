import BlobDepot.Proofs.Archive.Blobs
import BlobDepot.Proofs.FileTree.Twins

/-! # Archives that keep to their root directory

Two archives with the same relative root directory, in trees that agree inside of it, cannot
be told apart: reading and writing under valid keys answers the same, keeps the trees equal
inside and touches nothing outside (`Twins.read_eq`, `Twins.write`).

All paths that are used lead inside: that of a key, since none of its names is `..` or
empty (`leads_path`), that of the file beside it (`leads_uploadPath`), and the directories
above it, which are made from below and only as far as they are missing.

Opening an archive makes its root directory and those above it.  It changes nothing inside,
so archives on trees that agreed there are twins once they are open (`Twins.of_openAt`).
-/

namespace BlobDepot.Archive

open FileTree BlobKey

/-- The same archive in trees that agree inside its root directory. -/
structure Twins (dirs : List String) (o o' : FileTree) (a a' : Archive) : Prop where
  trees : FileTree.Twins dirs o o' a.tree a'.tree
  root : a'.root = a.root
  nextUpload : a'.nextUpload = a.nextUpload
  relative : a.root.absolute = false
  level : ".." ∉ a.root.pieces
  names : a.root.pieces.filter Path.isName = dirs

variable {o o' : FileTree} {a a' : Archive} {dirs : List String} {key : String} {data : ByteArray}
variable {p : Path}

/-! ## Paths -/

/-- The path of a key, read from a relative root directory without `..`, leads inside of it. -/
theorem leads_path (relative : a.root.absolute = false) (level : ".." ∉ a.root.pieces)
    (valid : Valid key) : LeadsInto (a.root.pieces.filter Path.isName) (a.path key) := by
  obtain ⟨front, whole, start, same⟩ := path_eq a valid
  have all : (BlobKey.names key).filter Path.isName = BlobKey.names key :=
    List.filter_eq_self.mpr fun _ member => isName_of_mem_names valid member
  rw [whole]
  refine ⟨relative, ?_, BlobKey.names key, names_ne_nil key, ?_⟩
  · rw [List.mem_append, not_or]
    exact ⟨fun up => level (start.subset up), fun up => (plain_of_mem_names valid up).2 rfl⟩
  · rw [List.filter_append, all, filter_isName front, same, ← filter_isName]

/-- The parent of a path inside a directory leads to the directory or inside of it. -/
theorem parent_of_leads (leads : LeadsInto dirs p) :
    ".." ∉ p.parent.pieces ∧ dirs <+: p.parent.pieces.filter Path.isName := by
  obtain ⟨rest, nonempty, split⟩ := leads.inside
  refine ⟨fun up => leads.level ((Path.starts_parent p).pieces.subset up), ?_⟩
  rw [Path.filter_parent, split, List.dropLast_append_of_ne_nil nonempty]
  exact List.prefix_append ..

/-- A name put behind a path of a directory or inside of it leads inside. -/
theorem leads_join (relative : p.absolute = false) (level : ".." ∉ p.pieces)
    (leads : dirs <+: p.pieces.filter Path.isName) {name : String}
    (named : Path.isName name = true) (plain : Plain name) :
    LeadsInto dirs (p.join ⟨false, [name]⟩) := by
  obtain ⟨front, whole, start, same⟩ :=
    Path.join_eq (q := ⟨false, [name]⟩) rfl (List.cons_ne_nil name []) p
  obtain ⟨rest, split⟩ := leads
  rw [whole]
  refine ⟨relative, ?_, rest ++ [name], by simp, ?_⟩
  · rw [List.mem_append, List.mem_singleton, not_or]
    exact ⟨fun up => level (start.subset up), Ne.symm plain.2⟩
  · rw [List.filter_append, same, ← split, List.append_assoc]
    simp [named]

theorem leads_uploadPath (leads : LeadsInto dirs p) (number : Nat) :
    LeadsInto dirs (uploadPath p number) := by
  rw [uploadPath, ← besideName, Path.withFileName]
  have named := isName_besideName p number
  have plain := plain_besideName p number
  split
  · obtain ⟨level, above⟩ := parent_of_leads leads
    exact leads_join (p := p.parent) leads.relative level above named plain
  · exact leads_join leads.relative leads.level leads.start named plain

/-! ## Reading and writing -/

theorem Twins.read_eq (twins : Twins dirs o o' a a') (valid : Valid key) :
    a.read key = a'.read key := by
  have leads := leads_path twins.relative twins.level valid
  rw [twins.names] at leads
  have path_eq := path_of_root twins.root key
  rw [read, read, path_eq, twins.trees.readFile_eq leads, twins.trees.isDirectory_eq leads]

theorem twins_upload {t t' : FileTree} (twins : FileTree.Twins dirs o o' t t') (leads : LeadsInto dirs p)
    (number : Nat) (data : ByteArray) :
    Paired (FileTree.Twins dirs o o') (upload t p number data) (upload t' p number data) := by
  have beside := leads_uploadPath leads number
  have written := twins.writeFile beside data
  have discarded := twins.discard beside
  rw [upload, upload]
  generalize t.writeFile (uploadPath p number) data = result at written ⊢
  generalize t'.writeFile (uploadPath p number) data = result' at written ⊢
  cases written with
  | error e => exact .mk (some e) discarded
  | @ok w w' related =>
    have renamed := related.renameFile beside leads
    have discarded := related.discard beside
    simp only
    generalize w.renameFile (uploadPath p number) p = result at renamed ⊢
    generalize w'.renameFile (uploadPath p number) p = result' at renamed ⊢
    cases renamed with
    | error e => exact .mk (some e) discarded
    | ok related => exact .mk none related

theorem Twins.moved (twins : Twins dirs o o' a a') {t t' : FileTree}
    (trees : FileTree.Twins dirs o o' t t') (nextUpload : Nat) :
    Twins dirs o o' { a with tree := t, nextUpload } { a' with tree := t', nextUpload } :=
  ⟨trees, twins.root, rfl, twins.relative, twins.level, twins.names⟩

theorem Twins.write (twins : Twins dirs o o' a a') (valid : Valid key) (data : ByteArray) :
    Paired (Twins dirs o o') (a.write key data) (a'.write key data) := by
  have leads := leads_path twins.relative twins.level valid
  rw [twins.names] at leads
  have path_eq := path_of_root twins.root key
  obtain ⟨level, above⟩ := parent_of_leads leads
  have relative : (a.path key).parent.absolute = false := leads.relative
  have made := twins.trees.makeDirs relative level above
  rw [Archive.write, Archive.write, path_eq, twins.nextUpload]
  generalize a.tree.makeDirs (a.path key).parent = result at made ⊢
  generalize a'.tree.makeDirs (a.path key).parent = result' at made ⊢
  cases made with
  | @mk e tree tree' ready =>
    cases e with
    | some e => exact .mk _ (twins.moved ready _)
    | none =>
      have uploaded := twins_upload ready leads a.nextUpload data
      simp only
      generalize upload tree (a.path key) a.nextUpload data = result at uploaded ⊢
      generalize upload tree' (a.path key) a.nextUpload data = result' at uploaded ⊢
      cases uploaded with
      | @mk e tree tree' done =>
        cases e with
        | some e => exact .mk _ (twins.moved done _)
        | none => exact .mk _ (twins.moved done _)

/-! ## Opening -/

/-- An archive that was opened at a relative path without `..` has its root directory where
    the names of the path say, with everything inside as it was. -/
theorem openAt_inside {root : Path} {t : FileTree} (relative : root.absolute = false)
    (level : ".." ∉ root.pieces) (opened : (openAt root t).result = .ok a) :
    let dirs := root.pieces.filter Path.isName
    a.root = root ∧ a.nextUpload = 0 ∧ a.tree.home = t.home ∧
      a.tree.walk false dirs = .ok ⟨t.home ++ dirs, .directory⟩ ∧
      ∀ place, Inside (t.home ++ dirs) place → a.tree.node? place = t.node? place := by
  intro dirs
  obtain ⟨root_eq, ⟨dest, mounted⟩, alters⟩ := openAt_ok opened
  have home := alters.keeps.home
  have level' : ".." ∉ root.pieces.filter (· != "") := fun up => level (List.mem_filter.mp up).1
  rw [Mounted, root_eq, relative] at mounted
  have undotted := walkFrom_dots.mp mounted
  rw [← filter_isName, walk_level level' mounted, ← filter_isName] at undotted
  have kept : a.nextUpload = 0 ∧
      ∀ place, Inside (t.home ++ dirs) place → a.tree.node? place = t.node? place := by
    rw [openAt] at opened
    simp only at opened
    split at opened
    · cases opened
      exact ⟨rfl, fun _ _ => rfl⟩
    · cases opened
    · split at opened
      · rename_i made done
        cases opened
        refine ⟨rfl, fun place inside => ?_⟩
        have same := node?_makeDirs_of_inside t level (by rwa [relative])
        rwa [done] at same
      · cases opened
    · cases opened
  refine ⟨root_eq, kept.1, home, ?_, kept.2⟩
  rw [← home]
  exact undotted

/-- Archives opened at the same path, in the same working directory, on trees that agreed inside
    are twins. -/
theorem Twins.of_openAt {root : Path} {t t' : FileTree} (relative : root.absolute = false)
    (level : ".." ∉ root.pieces) (homes : t'.home = t.home)
    (agree : ∀ place, Inside (t.home ++ root.pieces.filter Path.isName) place →
      t.node? place = t'.node? place)
    (opened : (openAt root t).result = .ok a) (opened' : (openAt root t').result = .ok a') :
    Twins (root.pieces.filter Path.isName) a.tree a'.tree a a' := by
  obtain ⟨root_eq, number, home, mounted, kept⟩ := openAt_inside relative level opened
  obtain ⟨root_eq', number', home', mounted', kept'⟩ := openAt_inside relative level opened'
  rw [homes] at home' mounted' kept'
  have plain : ∀ name ∈ root.pieces.filter Path.isName, Plain name := by
    intro name member
    obtain ⟨member, named⟩ := List.mem_filter.mp member
    refine ⟨?_, fun up => level (up ▸ member)⟩
    rintro rfl
    cases named
  have trees : FileTree.Twins (root.pieces.filter Path.isName) a.tree a'.tree a.tree a'.tree := by
    refine ⟨plain, home.symm ▸ mounted, home.symm ▸ mounted', home'.trans home.symm, rfl,
      home'.trans home.symm, fun place inside => ?_, fun _ _ => rfl, fun _ _ => rfl⟩
    rw [home] at inside
    rw [kept place inside, kept' place inside, agree place inside]
  refine ⟨trees, ?_, ?_, ?_, ?_, ?_⟩
  · rw [root_eq, root_eq']
  · rw [number, number']
  · rw [root_eq, relative]
  · rwa [root_eq]
  · rw [root_eq]

end BlobDepot.Archive
