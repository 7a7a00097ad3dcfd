import Mathlib.Data.List.DropRight
import BlobDepot.FileTree.Path

/-! # The names of paths

What putting paths together and taking them apart does to their names, however many slashes
and dots stand between them.  A path put behind another has the names of both (`join_eq`).
The parent of a path has its names but for the last one (`filter_parent`).  The ancestors of a
path are starts of it (`starts_of_mem_ancestors`), and each has one name less than the one
before it (`landings_concat`).
-/

namespace BlobDepot.Path

/-- The first path is how the second one begins. -/
structure Starts (p q : Path) : Prop where
  absolute : p.absolute = q.absolute
  pieces : p.pieces <+: q.pieces

variable {p q r : Path} {absolute : Bool} {pieces : List String}

theorem Starts.refl (p : Path) : p.Starts p :=
  ⟨rfl, List.prefix_rfl⟩

theorem Starts.trans (start : p.Starts q) (start' : q.Starts r) : p.Starts r :=
  ⟨start.absolute.trans start'.absolute, start.pieces.trans start'.pieces⟩

/-! ## Ancestors -/

/-- The starts of some pieces that end in a name, as paths, the longest first. -/
def landings (absolute : Bool) (pieces : List String) : List Path :=
  (((List.range' 1 pieces.length).map (pieces.take ·)).filter
    fun start => start.getLast?.any isName).reverse.map (Path.mk absolute)

theorem ancestors_eq (p : Path) :
    p.ancestors = if p.pieces = [] then [] else p :: landings p.absolute p.parent.pieces := rfl

theorem landings_concat (absolute : Bool) (pieces : List String) (piece : String) :
    landings absolute (pieces ++ [piece]) =
      if isName piece then ⟨absolute, pieces ++ [piece]⟩ :: landings absolute pieces
      else landings absolute pieces := by
  -- The starts of the shorter list are not changed by what follows.
  have starts : (List.range' 1 (pieces ++ [piece]).length).map ((pieces ++ [piece]).take ·) =
      (List.range' 1 pieces.length).map (pieces.take ·) ++ [pieces ++ [piece]] := by
    rw [List.length_append, List.length_singleton, List.range'_1_concat, List.map_append]
    congr 1
    · apply List.map_congr_left
      intro i member
      rw [List.mem_range'_1] at member
      exact List.take_append_of_le_length (by omega)
    · have whole : (pieces ++ [piece]).take (1 + pieces.length) = pieces ++ [piece] :=
        List.take_of_length_le (by simp [Nat.add_comm])
      rw [List.map_singleton, whole]
  rw [landings, starts, List.filter_append, List.reverse_append, List.map_append]
  by_cases named : isName piece = true
  · simp [named, landings]
  · simp [named, landings]

theorem starts_of_mem_landings (member : p ∈ landings absolute pieces) :
    p.Starts ⟨absolute, pieces⟩ := by
  obtain ⟨start, found, rfl⟩ := List.mem_map.mp member
  obtain ⟨start_of, -⟩ := List.mem_filter.mp (List.mem_reverse.mp found)
  obtain ⟨i, -, rfl⟩ := List.mem_map.mp start_of
  exact ⟨rfl, List.take_prefix i pieces⟩

theorem pieces_ne_nil_of_mem_landings (member : p ∈ landings absolute pieces) : p.pieces ≠ [] := by
  obtain ⟨start, found, rfl⟩ := List.mem_map.mp member
  obtain ⟨-, named⟩ := List.mem_filter.mp (List.mem_reverse.mp found)
  rintro rfl
  cases named

/-- All landings are starts of the first one. -/
theorem starts_of_mem_cons {above : List Path} (chain : landings absolute pieces = p :: above)
    (member : q ∈ p :: above) : q.Starts p := by
  induction pieces using List.reverseRecOn with
  | nil => cases chain
  | append_singleton pieces piece ih =>
    rw [landings_concat] at chain
    split at chain
    · cases chain
      cases List.mem_cons.mp member with
      | inl same => exact same ▸ .refl _
      | inr later =>
        have start := starts_of_mem_landings later
        exact ⟨start.absolute, start.pieces.trans (List.prefix_append pieces [piece])⟩
    · exact ih chain

/-- Names are no empty pieces. -/
theorem filter_of_isName {names : List String} (named : ∀ name ∈ names, isName name = true) :
    names.filter (· != "") = names :=
  List.filter_eq_self.mpr fun name member => by
    have both := named name member
    rw [isName, Bool.and_eq_true] at both
    exact both.1

/-! ## Joining -/

/-- A slash at the end of the first path is an empty piece, and the only piece that is lost. -/
theorem exists_join (relative : q.absolute = false) (nonempty : q.pieces ≠ []) (p : Path) :
    ∃ front, p.join q = ⟨p.absolute, front ++ q.pieces⟩ ∧
      (front = p.pieces ∨ front ++ [""] = p.pieces) := by
  rw [join, relative]
  simp only [Bool.false_eq_true, if_false]
  by_cases bare : p.pieces = []
  · rw [if_pos bare]
    exact ⟨[], rfl, .inl bare.symm⟩
  · rw [if_neg bare, if_neg nonempty]
    refine ⟨_, rfl, ?_⟩
    split
    · rename_i slash
      obtain ⟨front, split⟩ := List.getLast?_eq_some_iff.mp slash
      rw [split, List.dropLast_concat]
      exact .inr rfl
    · exact .inl rfl

theorem join_eq (relative : q.absolute = false) (nonempty : q.pieces ≠ []) (p : Path) :
    ∃ front, p.join q = ⟨p.absolute, front ++ q.pieces⟩ ∧ front <+: p.pieces ∧
      front.filter isName = p.pieces.filter isName := by
  obtain ⟨front, joined, rfl | slash⟩ := exists_join relative nonempty p
  · exact ⟨_, joined, List.prefix_rfl, rfl⟩
  · rw [← slash]
    exact ⟨front, joined, List.prefix_append front [""], by simp [isName]⟩

/-! ## Parents -/

/-- A path that ends in a name is not cut before its last name is taken off. -/
theorem trimmed_of_isName {last : String} (final : p.pieces.getLast? = some last)
    (named : isName last = true) : p.trimmed = p.pieces := by
  obtain ⟨front, split⟩ := List.getLast?_eq_some_iff.mp final
  show p.pieces.rdropWhile (!isName ·) = p.pieces
  rw [split, List.rdropWhile_concat_neg _ _ _ (by simp [named])]

/-- A parent ends in a name if it has any. -/
theorem isName_of_getLast?_parent {last : String} (final : p.parent.pieces.getLast? = some last) :
    isName last = true := by
  obtain ⟨front, split⟩ := List.getLast?_eq_some_iff.mp final
  have pieces : p.trimmed.dropLast.rdropWhile (!isName ·) = front ++ [last] := split
  have kept := List.rdropWhile_last_not (!isName ·) p.trimmed.dropLast (by simp [pieces])
  simp only [pieces, List.getLast_append_singleton] at kept
  simpa using kept

/-- What is cut off at the end of a path has no name. -/
theorem filter_rdropWhile (pieces : List String) :
    (pieces.rdropWhile (!isName ·)).filter isName = pieces.filter isName := by
  induction pieces using List.reverseRecOn with
  | nil => rfl
  | append_singleton pieces piece ih =>
    rw [List.rdropWhile_concat]
    by_cases named : isName piece = true
    · simp [named]
    · simp [named, ih]

theorem filter_dropLast_trimmed (pieces : List String) :
    (pieces.rdropWhile (!isName ·)).dropLast.filter isName = (pieces.filter isName).dropLast := by
  induction pieces using List.reverseRecOn with
  | nil => rfl
  | append_singleton pieces piece ih =>
    rw [List.rdropWhile_concat]
    by_cases named : isName piece = true
    · simp [named]
    · simp [named, ih]

theorem filter_parent (p : Path) :
    p.parent.pieces.filter isName = (p.pieces.filter isName).dropLast :=
  (filter_rdropWhile p.trimmed.dropLast).trans (filter_dropLast_trimmed p.pieces)

theorem parent_start_trimmed (p : Path) : p.parent.pieces <+: p.trimmed.dropLast :=
  List.rdropWhile_prefix (!isName ·) p.trimmed.dropLast

theorem starts_parent (p : Path) : p.parent.Starts p := by
  have shorter := List.dropLast_prefix p.trimmed
  have trimmed := List.rdropWhile_prefix (!isName ·) p.pieces
  exact ⟨rfl, ((parent_start_trimmed p).trans shorter).trans trimmed⟩

/-- Another last name stands behind the parent. -/
theorem withFileName_eq {name : String} (named : p.fileName?.isSome) :
    p.withFileName name = ⟨p.absolute, p.parent.pieces ++ [name]⟩ := by
  rw [withFileName, if_pos named, join]
  simp only [Bool.false_eq_true, if_false, List.cons_ne_nil]
  by_cases bare : p.parent.pieces = []
  · rw [if_pos bare, bare]
    rfl
  · rw [if_neg bare, if_neg]
    · rfl
    · intro slash
      cases isName_of_getLast?_parent slash

theorem landings_rdropWhile (absolute : Bool) (pieces : List String) :
    landings absolute (pieces.rdropWhile (!isName ·)) = landings absolute pieces := by
  induction pieces using List.reverseRecOn with
  | nil => rfl
  | append_singleton pieces piece ih =>
    rw [List.rdropWhile_concat, landings_concat]
    by_cases named : isName piece = true
    · simp [named, landings_concat]
    · simp [named, ih]

/-- A parent ends in a name, so that its ancestors are the starts that end in one. -/
theorem ancestors_parent (p : Path) :
    p.parent.ancestors = landings p.absolute p.trimmed.dropLast := by
  have pieces : p.parent.pieces = p.trimmed.dropLast.rdropWhile (!isName ·) := rfl
  rw [ancestors_eq, ← landings_rdropWhile p.absolute p.trimmed.dropLast, ← pieces]
  obtain bare | ⟨front, last, split⟩ := List.eq_nil_or_concat' p.parent.pieces
  · rw [if_pos bare, bare]
    rfl
  · have final : p.parent.pieces.getLast? = some last := by rw [split, List.getLast?_concat]
    have named := isName_of_getLast?_parent final
    have above : landings p.parent.absolute p.parent.parent.pieces = landings p.absolute front := by
      show landings p.absolute (p.parent.trimmed.dropLast.rdropWhile (!isName ·)) =
        landings p.absolute front
      rw [landings_rdropWhile, trimmed_of_isName final named, split, List.dropLast_concat]
    rw [if_neg (by rw [split]; simp), above]
    show (⟨p.absolute, p.parent.pieces⟩ : Path) :: _ = _
    rw [split, landings_concat, if_pos named]

theorem starts_of_mem_ancestors (member : q ∈ p.ancestors) : q.Starts p := by
  rw [ancestors_eq] at member
  split at member
  · cases member
  · cases List.mem_cons.mp member with
    | inl same => exact same ▸ .refl p
    | inr above => exact (starts_of_mem_landings above).trans (starts_parent p)

end BlobDepot.Path
