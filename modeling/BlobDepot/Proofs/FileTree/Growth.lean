import BlobDepot.Proofs.FileTree.Effects
import BlobDepot.Proofs.FileTree.Paths

/-! # Trees that grow along a path

Making the directories of a path only adds to a tree.  Whatever stands in it stays what it is,
and all that is new are directories to which the starts of the path lead (`Grown`).  One
directory adds one place (`Grown.makeDir`), so this holds of all directories above a path,
whether or not the last of them could be made (`grown_makeDirs`).
-/

namespace BlobDepot.FileTree

/-- A start of the path leads to the directory at a place. -/
def OnWay (t : FileTree) (p : Path) (q : Location) : Prop :=
  ∃ (start : Path) (names : List String), start.Starts p ∧ namesOf start = .ok names ∧
    t.walk start.absolute names = .ok ⟨q, .directory⟩

/-- One tree is the other with at most some directories on the way of a path added. -/
structure Grown (p : Path) (t t' : FileTree) : Prop where
  home : t'.home = t.home
  kept : ∀ q node, t.node? q = some node → t'.node? q = some node
  added : ∀ q node, t'.node? q = some node →
    t.node? q = some node ∨ node = .directory ∧ t'.OnWay p q

variable {t t' t'' : FileTree} {p start : Path}

theorem Grown.refl (p : Path) (t : FileTree) : Grown p t t :=
  ⟨rfl, fun _ _ stands => stands, fun _ _ stands => .inl stands⟩

theorem OnWay.of_keeps {q : Location} (way : t.OnWay p q) (keeps : t.Keeps t') : t'.OnWay p q := by
  obtain ⟨start, names, front, legible, led⟩ := way
  exact ⟨start, names, front, legible, walk_of_keeps keeps led rfl⟩

/-- The path of a directory that was made leads to it. -/
theorem walk_of_makeDir (made : t.makeDir p = .ok t') : ∃ names directory name,
    namesOf p = .ok names ∧ t'.walk p.absolute names = .ok ⟨directory ++ [name], .directory⟩ ∧
      t.node? (directory ++ [name]) = none ∧ t' = t.set (directory ++ [name]) .directory := by
  have keeps := (alters_makeDir made fun _ => False).keeps
  obtain ⟨directory, name, slash, found, missing, rfl⟩ := makeDir_eq_ok made
  obtain ⟨names, legible, led, last, plain, short, -⟩ := locate_eq_ok_iff.mp found
  refine ⟨names, directory, name, legible, ?_, missing, rfl⟩
  obtain ⟨front, rfl⟩ := List.getLast?_eq_some_iff.mp last
  rw [List.dropLast_concat] at led
  -- The way to the parent is still open, and the new name leads one level down from there.
  rw [walk_append, walk_of_keeps keeps led rfl]
  show walkFrom _ ⟨directory, .directory⟩ [name] = _
  rw [walkFrom_cons, follow_plain plain, if_neg (Nat.not_lt.mpr short), find,
    node?_set (not_start_of_node? (by simp [missing])), if_pos rfl]
  rfl

/-- Making a directory on the way adds its place. -/
theorem Grown.makeDir (grown : Grown p t t') (front : start.Starts p)
    (made : t'.makeDir start = .ok t'') : Grown p t t'' := by
  have keeps := (alters_makeDir made fun _ => False).keeps
  obtain ⟨names, directory, name, legible, led, missing, rfl⟩ := walk_of_makeDir made
  have vacant : t'.node? (directory ++ [name]) ≠ some .directory := by simp [missing]
  have place := node?_set (not_start_of_node? vacant) .directory
  refine ⟨grown.home, ?_, ?_⟩
  · intro q node stands
    have before := grown.kept q node stands
    have apart : q ≠ directory ++ [name] := by
      rintro rfl
      rw [missing] at before
      cases before
    rw [place, if_neg apart]
    exact before
  · intro q node stands
    rw [place] at stands
    split at stands
    · rename_i here
      cases stands
      exact .inr ⟨rfl, start, names, front, legible, here ▸ led⟩
    · exact (grown.added q node stands).imp_right fun new => ⟨new.1, new.2.of_keeps keeps⟩

theorem grown_makeDirs (t : FileTree) (p : Path) : Grown p t (t.makeDirs p).2 :=
  makeChain_keeps (fun member grown made => grown.makeDir (Path.starts_of_mem_ancestors member) made)
    (.refl p t)

end BlobDepot.FileTree
