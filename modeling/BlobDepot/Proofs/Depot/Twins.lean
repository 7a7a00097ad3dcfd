import BlobDepot.Proofs.Archive.Twins
import BlobDepot.Proofs.Depot.Alongside

/-! # Depots that keep to their root directory

Archive and cache only see full keys that are valid.  So what holds of archives in trees that
agree inside their root directory holds of depots on such archives: with the same cache and
the same prefix they answer the same to every call, for any key, and stay twins
(`Twins.step`).
-/

namespace BlobDepot.Depot

/-- The same depot on archives in trees that agree inside their root directory. -/
structure Twins (dirs : List String) (o o' : FileTree) (d d' : Depot) : Prop where
  archives : Archive.Twins dirs o o' d.archive d'.archive
  cache : d'.cache = d.cache
  keyPrefix : d'.keyPrefix = d.keyPrefix

variable {dirs : List String} {o o' : FileTree} {d d' : Depot}

theorem twins_bridges : Bridges Eq (Archive.Twins dirs o o') fun _ _ _ => True where
  refl _ := rfl
  read {a a' full} twins valid := by
    rw [← twins.read_eq valid]
    exact .refl (fun _ => rfl) _
  write {a a' full} data twins valid _ := by
    have written := twins.write valid data
    generalize a.write full data = result at written ⊢
    generalize a'.write full data = result' at written ⊢
    cases written with
    | mk result archives => exact ⟨.refl (fun _ => rfl) result, archives⟩

theorem Twins.alongside (twins : Twins dirs o o' d d') :
    Alongside (Archive.Twins dirs o o') d d' :=
  ⟨twins.archives, twins.cache, twins.keyPrefix⟩

theorem Twins.of_alongside (along : Alongside (Archive.Twins dirs o o') d d') :
    Twins dirs o o' d d' :=
  ⟨along.archives, along.cache, along.keyPrefix⟩

theorem Twins.get (twins : Twins dirs o o' d d') (key : String) (use : CacheUse) :
    (d.get key use).result = (d'.get key use).result ∧
      Twins dirs o o' (d.get key use).depot (d'.get key use).depot := by
  obtain ⟨agree, after⟩ := twins.alongside.get twins_bridges key use
  exact ⟨agree.eq, .of_alongside after⟩

theorem Twins.put (twins : Twins dirs o o' d d') (key : String) (data : ByteArray) (use : CacheUse) :
    (d.put key data use).result = (d'.put key data use).result ∧
      Twins dirs o o' (d.put key data use).depot (d'.put key data use).depot := by
  obtain ⟨agree, after⟩ := twins.alongside.put twins_bridges (fun _ _ => trivial) data use
  exact ⟨agree.eq, .of_alongside after⟩

/-- Twins cannot be told apart by a call, and stay twins. -/
theorem Twins.step (twins : Twins dirs o o' d d') (call : Call) :
    (d.step call).1 = (d'.step call).1 ∧ Twins dirs o o' (d.step call).2 (d'.step call).2 := by
  cases call with
  | get key use =>
    obtain ⟨same, after⟩ := twins.get key use
    exact ⟨congrArg Answer.fetched same, after⟩
  | put key data use =>
    obtain ⟨same, after⟩ := twins.put key data use
    exact ⟨congrArg Answer.stored same, after⟩

/-- Depots that were opened with the same settings in the same working directory, on trees that
    agreed inside the storage directory, are twins. -/
theorem Twins.of_fresh {settings : Settings} {t t' : FileTree}
    (relative : (Path.ofString settings.directory).absolute = false)
    (level : ".." ∉ (Path.ofString settings.directory).pieces) (homes : t'.home = t.home)
    (agree : ∀ place,
      FileTree.Inside (t.home ++ (Path.ofString settings.directory).pieces.filter Path.isName) place →
        t.node? place = t'.node? place)
    (fresh : Fresh settings t d) (fresh' : Fresh settings t' d') :
    Twins ((Path.ofString settings.directory).pieces.filter Path.isName) d.archive.tree d'.archive.tree
      d d' := by
  obtain ⟨-, opened, cache, keyPrefix⟩ := fresh.parts
  obtain ⟨-, opened', cache', keyPrefix'⟩ := fresh'.parts
  exact ⟨.of_openAt relative level homes agree opened opened', by rw [cache, cache'],
    by rw [keyPrefix, keyPrefix']⟩

end BlobDepot.Depot
