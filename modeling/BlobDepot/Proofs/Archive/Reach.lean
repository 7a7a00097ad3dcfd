import BlobDepot.Proofs.Archive.Blobs

/-! # Keys that can be reached

A key can be reached if its path is short enough to be looked up and the way to its place is
open: no name is longer than a directory can hold, and no file stands before the end.  Of such
a key it can be said whether a blob is there (`Settled.read_of_reaches`).

A key that cannot be reached has no blob, but reading does not say so: it fails
(`Settled.read_of_unreached`).
-/

namespace BlobDepot.Archive

open FileTree BlobKey

/-- An archive in a file system: its root directory is there, and its path is one that can be
    looked up. -/
structure Settled (a : Archive) (base : Location) : Prop where
  mounted : a.Mounted base
  rooted : a.tree.Rooted
  clean : a.root.hasNul = false

/-- The path of a key can be followed up to its last name. -/
structure Reaches (a : Archive) (base : Location) (key : String) : Prop where
  short : (a.path key).byteSize ≤ maxPathBytes
  way : a.tree.Open base (names key)

variable {a : Archive} {base : Location} {key : String} {data : ByteArray}

/-! ## Archives in a file system -/

theorem Settled.of_openAt {root : Path} {t : FileTree} (opened : (openAt root t).result = .ok a)
    (rooted : t.Rooted) (mounted : a.Mounted base) : a.Settled base := by
  obtain ⟨rfl, _, _⟩ := openAt_ok opened
  exact ⟨mounted, rooted_openAt rooted opened, hasNul_of_openAt opened⟩

theorem Settled.after_write (settled : a.Settled base) (valid : Valid key) (data : ByteArray) :
    (a.write key data).2.Settled base := by
  obtain ⟨mounted, root⟩ := settled.mounted.after_write valid data
  exact ⟨mounted, rooted_write settled.rooted key data, root ▸ settled.clean⟩

theorem Settled.hasNul_path (settled : a.Settled base) (valid : Valid key) :
    (a.path key).hasNul = false := by
  obtain ⟨front, whole, start, _⟩ := path_eq a valid
  have starts : Path.Starts ⟨a.root.absolute, front⟩ a.root := ⟨rfl, start⟩
  have before := hasNul_of_starts starts settled.clean
  have after : (names key).any (fun piece => piece.toList.contains '\x00') = false :=
    List.any_eq_false.mpr fun name member => by simpa using nul_not_mem_names valid member
  rw [Path.hasNul, whole, List.any_append, after, Bool.or_false]
  exact before

theorem Settled.legible_path (settled : a.Settled base) (valid : Valid key)
    (short : (a.path key).byteSize ≤ maxPathBytes) : ∃ all, namesOf (a.path key) = .ok all := by
  obtain ⟨front, whole, _⟩ := path_eq a valid
  refine legible_iff.mpr ⟨settled.hasNul_path valid, short, .inl ?_⟩
  rw [whole]
  exact List.append_ne_nil_of_right_ne_nil front (names_ne_nil key)

/-! ## Reading -/

theorem Settled.read_of_reaches (settled : a.Settled base) (valid : Valid key)
    (reaches : a.Reaches base key) : a.read key = .ok (a.tree.file? (base ++ names key)) := by
  obtain ⟨all, legible⟩ := settled.legible_path valid reaches.short
  have led := settled.rooted.walkFrom_open (node?_of_walk settled.mounted)
    (fun _ => plain_of_mem_names valid) reaches.way
  rw [← settled.mounted.walk_path valid, ← namesOf_eq_ok legible] at led
  rw [read_eq, stat, legible, file?]
  simp only [bind, Except.bind, led, find]
  cases a.tree.node? (base ++ names key) with
  | none => rfl
  | some node =>
    cases node with
    | directory => rfl
    | file data => simp only [if_neg (path_ends_unslashed a valid)]

/-- The way of a key that is not open is blocked by a file or by a name that is too long. -/
theorem Settled.walk_unopened (settled : a.Settled base) (valid : Valid key)
    (closed : ¬ a.tree.Open base (names key)) :
    ∃ e, (e = .notDirectory ∨ e = .nameTooLong) ∧
      a.tree.walkFrom ⟨base, .directory⟩ (names key) = .error e := by
  have plain : ∀ name ∈ names key, Plain name := fun _ => plain_of_mem_names valid
  by_cases short : ∀ name ∈ names key, name.utf8ByteSize ≤ maxNameBytes
  · obtain ⟨front, back, v, split, nonempty, stands⟩ : ∃ front back v, names key = front ++ back ∧
        back ≠ [] ∧ a.tree.node? (base ++ front) = some (.file v) := by
      by_contra none
      push Not at none
      exact closed ⟨short, none⟩
    rw [split, List.forall_mem_append] at plain short
    refine ⟨_, .inl rfl, ?_⟩
    rw [split, settled.rooted.walkFrom_blocked (node?_of_walk settled.mounted) plain.1 short.1 stands
      nonempty]
  · -- A name that is too long leaves no room for another one.
    push Not at short
    obtain ⟨name, member, long⟩ := short
    have alone := (size_of_mem_names valid member).resolve_right fun room => by
      simp only [maxNameBytes, maxBytes] at long room
      omega
    exact ⟨_, .inr rfl, by rw [alone, walkFrom_tooLong (plain name member) long]⟩

theorem Settled.read_of_unreached (settled : a.Settled base) (valid : Valid key)
    (unreached : ¬ a.Reaches base key) :
    ∃ e : Errno, (e = .notDirectory ∨ e = .nameTooLong) ∧ a.read key = .error e.fault := by
  by_cases short : (a.path key).byteSize ≤ maxPathBytes
  · obtain ⟨all, legible⟩ := settled.legible_path valid short
    obtain ⟨e, kind, lost⟩ := settled.walk_unopened valid fun way => unreached ⟨short, way⟩
    rw [← settled.mounted.walk_path valid, ← namesOf_eq_ok legible] at lost
    have seen : a.tree.stat (a.path key) = .error e := by
      rw [stat, legible]
      simp only [bind, Except.bind, lost]
    refine ⟨e, kind, ?_⟩
    rw [read_eq, seen]
    obtain rfl | rfl := kind <;> rfl
  · have seen : a.tree.stat (a.path key) = .error .nameTooLong := by
      rw [stat, namesOf, settled.hasNul_path valid, if_pos (Nat.lt_of_not_le short)]
      rfl
    exact ⟨_, .inr rfl, by rw [read_eq, seen]⟩

/-- Reading a key succeeds exactly if it can be reached. -/
theorem Settled.read_eq_ok_iff (settled : a.Settled base) (valid : Valid key)
    {found : Option ByteArray} : a.read key = .ok found ↔
      a.Reaches base key ∧ a.tree.file? (base ++ names key) = found := by
  by_cases reaches : a.Reaches base key
  · rw [settled.read_of_reaches valid reaches, Except.ok.injEq]
    exact (and_iff_right reaches).symm
  · obtain ⟨e, _, lost⟩ := settled.read_of_unreached valid reaches
    rw [lost]
    simp [reaches]

end BlobDepot.Archive
