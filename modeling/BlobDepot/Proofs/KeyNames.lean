import Mathlib.Algebra.BigOperators.Group.List.Basic
import BlobDepot.BlobKey
import BlobDepot.Proofs.FileTree.Walk

/-! # Keys as paths

A key is read as a path of the names between its slashes.  None of these names is empty
or starts with a dot, so that each of them leads one level down, and two keys with the
same names are the same key.
-/

namespace BlobDepot.BlobKey

open FileTree

/-- The names on the way to a key's file, from the root directory of an archive. -/
def names (key : String) : List String :=
  (segments key).map String.ofList

variable {key key' : String}

theorem names_ne_nil (key : String) : names key ≠ [] := by
  simp [names, segments]

theorem names_eq_concat (key : String) : ∃ front last, names key = front ++ [last] := by
  obtain ⟨front, last, split⟩ :=
    (List.eq_nil_or_concat (names key)).resolve_left (names_ne_nil key)
  exact ⟨front, last, split.trans List.concat_eq_append⟩

theorem exists_last_name (key : String) : ∃ last ∈ names key, (names key).getLast? = some last := by
  obtain ⟨front, last, split⟩ := names_eq_concat key
  rw [split]
  exact ⟨last, List.mem_append_right front (List.mem_singleton_self last), List.getLast?_concat⟩

theorem mem_names_of_dropLast {name : String} (member : name ∈ (names key).dropLast) :
    name ∈ names key :=
  (List.dropLast_prefix _).subset member

theorem names_injective (same : names key = names key') : key = key' := by
  have segments_eq : segments key = segments key' :=
    (List.map_inj_right fun _ _ h => String.ofList_inj.mp h).mp same
  have joined := congrArg (List.intercalate ['/']) segments_eq
  rw [segments, segments, List.intercalate_splitOn, List.intercalate_splitOn] at joined
  exact String.toList_inj.mp joined

/-- No name of a key is empty, and none starts with a dot. -/
theorem head_of_mem_names (valid : Valid key) {name : String} (member : name ∈ names key) :
    ∃ c rest, name.toList = c :: rest ∧ c ≠ '.' := by
  obtain ⟨_, _, _, good⟩ := valid_iff.mp valid
  obtain ⟨segment, inside, rfl⟩ := List.mem_map.mp member
  have fine : isBadSegment segment = false := by
    simpa using List.any_eq_false.mp good segment inside
  cases segment with
  | nil => cases fine
  | cons c rest =>
    refine ⟨c, rest, String.toList_ofList, ?_⟩
    intro same
    subst same
    cases fine

theorem ne_empty_of_mem_names (valid : Valid key) {name : String} (member : name ∈ names key) :
    name ≠ "" := by
  obtain ⟨c, rest, letters, _⟩ := head_of_mem_names valid member
  intro same
  subst same
  cases letters

theorem plain_of_mem_names (valid : Valid key) {name : String} (member : name ∈ names key) :
    Plain name := by
  obtain ⟨c, rest, letters, undotted⟩ := head_of_mem_names valid member
  constructor
  · intro same
    subst same
    cases letters
    exact undotted rfl
  · intro same
    subst same
    cases letters
    exact undotted rfl

theorem isName_of_mem_names (valid : Valid key) {name : String} (member : name ∈ names key) :
    Path.isName name = true := by
  simp [Path.isName, ne_empty_of_mem_names valid member, (plain_of_mem_names valid member).1]

/-- A key is a relative path of its names, since it does not start with a slash. -/
theorem ofString_eq (valid : Valid key) : Path.ofString key = ⟨false, names key⟩ := by
  obtain ⟨nonempty, _⟩ := valid_iff.mp valid
  rw [Path.ofString]
  split
  · rename_i rest letters
    have first : "" ∈ names key := by
      rw [names, segments, letters, List.splitOn, List.splitOnP_cons_eq_if_modifyHead]
      simp
    exact absurd rfl (ne_empty_of_mem_names valid first)
  · rw [Path.split, if_neg]
    · rfl
    · intro bare
      rw [String.toList_eq_nil_iff.mp bare] at nonempty
      cases nonempty

theorem filter_names (valid : Valid key) : (names key).filter (· != "") = names key :=
  List.filter_eq_self.mpr fun _ member => by simpa using ne_empty_of_mem_names valid member

/-! ## Lengths and letters -/

theorem mem_of_mem_splitOn {cs segment : List Char} (inside : segment ∈ cs.splitOn '/') {c : Char}
    (member : c ∈ segment) : c ∈ cs := by
  induction cs generalizing segment with
  | nil =>
    rw [List.splitOn_nil, List.mem_singleton] at inside
    exact inside ▸ member
  | cons d cs ih =>
    obtain ⟨first, rest, split⟩ := List.exists_cons_of_ne_nil (List.splitOn_ne_nil '/' cs)
    rw [List.splitOn_cons_eq_if_modifyHead, split] at inside
    rw [split] at ih
    rw [List.mem_cons]
    split at inside
    · rw [List.mem_cons] at inside
      obtain rfl | later := inside
      · cases member
      · exact .inr (ih later member)
    · rw [List.modifyHead_cons, List.mem_cons] at inside
      obtain rfl | later := inside
      · rw [List.mem_cons] at member
        exact member.imp_right (ih List.mem_cons_self)
      · exact .inr (ih (List.mem_cons_of_mem first later) member)

/-- No name of a key holds a character that no path may hold. -/
theorem nul_not_mem_names (valid : Valid key) {name : String} (member : name ∈ names key) :
    '\x00' ∉ name.toList := by
  obtain ⟨_, _, allowed, _⟩ := valid_iff.mp valid
  obtain ⟨segment, inside, rfl⟩ := List.mem_map.mp member
  rw [String.toList_ofList]
  intro nul
  exact List.any_eq_false.mp allowed _ (mem_of_mem_splitOn inside nul) rfl

theorem foldr_splitOn (cs : List Char) :
    ((cs.splitOn '/').map fun segment => (String.ofList segment).utf8ByteSize).foldr (· + ·) 0 +
      ((cs.splitOn '/').length - 1) = (String.ofList cs).utf8ByteSize := by
  induction cs with
  | nil => simp
  | cons c cs ih =>
    obtain ⟨first, rest, split⟩ := List.exists_cons_of_ne_nil (List.splitOn_ne_nil '/' cs)
    rw [List.splitOn_cons_eq_if_modifyHead]
    rw [split, List.map_cons, List.foldr_cons, List.length_cons] at ih
    rw [String.ofList_cons, String.utf8ByteSize_append, String.utf8ByteSize_singleton, ← ih]
    by_cases slash : c = '/'
    · -- The slash is one byte, and it ends one more segment.
      subst slash
      have one : '/'.utf8Size = 1 := rfl
      rw [if_pos (by simp), split]
      simp only [List.map_cons, List.foldr_cons, List.length_cons, String.ofList_nil,
        String.utf8ByteSize_empty, one]
      omega
    · rw [if_neg (by simpa using slash), split, List.modifyHead_cons]
      simp only [List.map_cons, List.foldr_cons, List.length_cons, String.ofList_cons,
        String.utf8ByteSize_append, String.utf8ByteSize_singleton]
      omega

/-- The names of a key have its bytes but for the slashes. -/
theorem foldr_names (key : String) :
    ((names key).map String.utf8ByteSize).foldr (· + ·) 0 + ((names key).length - 1) =
      key.utf8ByteSize := by
  have whole := foldr_splitOn key.toList
  rw [String.ofList_toList] at whole
  rw [names, List.map_map, List.length_map]
  exact whole

/-- A name of a key leaves room for another one and a slash, unless there is no other. -/
theorem size_of_mem_names (valid : Valid key) {name : String} (member : name ∈ names key) :
    names key = [name] ∨ name.utf8ByteSize + 2 ≤ maxBytes := by
  have bound := (valid_iff.mp valid).2.1
  have whole := foldr_names key
  rw [← List.sum_eq_foldr] at whole
  have positive : ∀ other ∈ names key, 1 ≤ other.utf8ByteSize := fun other inside =>
    Nat.one_le_iff_ne_zero.mpr fun empty =>
      ne_empty_of_mem_names valid inside (String.utf8ByteSize_eq_zero_iff.mp empty)
  obtain ⟨front, back, split⟩ := List.append_of_mem member
  rw [split] at whole positive
  have least : ∀ part : List String, (∀ other ∈ part, other ∈ front ++ name :: back) →
      part.length ≤ (part.map String.utf8ByteSize).sum := fun part sub => by
    have counted := List.length_le_sum_of_one_le (part.map String.utf8ByteSize) fun size member => by
      obtain ⟨other, inside, rfl⟩ := List.mem_map.mp member
      exact positive other (sub other inside)
    rwa [List.length_map] at counted
  have before := least front fun other inside => List.mem_append_left _ inside
  have after := least back fun other inside =>
    List.mem_append_right front (List.mem_cons_of_mem name inside)
  by_cases alone : front.length + back.length = 0
  · have front_nil := List.length_eq_zero_iff.mp (Nat.eq_zero_of_add_eq_zero_right alone)
    have back_nil := List.length_eq_zero_iff.mp (Nat.eq_zero_of_add_eq_zero_left alone)
    exact .inl (by rw [split, front_nil, back_nil]; rfl)
  · refine .inr ?_
    simp only [List.map_append, List.map_cons, List.sum_append, List.sum_cons, List.length_append,
      List.length_cons] at whole
    omega

/-! ## Keys of one name -/

theorem segments_of_unslashed (unslashed : '/' ∉ key.toList) : segments key = [key.toList] := by
  rw [segments, List.splitOn, List.splitOnP_eq_singleton]
  intro c member
  simpa using ne_of_mem_of_not_mem member unslashed

theorem names_of_unslashed (unslashed : '/' ∉ key.toList) : names key = [key] := by
  rw [names, segments_of_unslashed unslashed, List.map_singleton, String.ofList_toList]

theorem utf8ByteSize_replicate (n : Nat) : (String.ofList (List.replicate n 'x')).utf8ByteSize = n := by
  induction n with
  | zero => simp
  | succ n ih =>
    have one : 'x'.utf8Size = 1 := rfl
    rw [List.replicate_succ, String.ofList_cons, String.utf8ByteSize_append,
      String.utf8ByteSize_singleton, ih, one, Nat.add_comm]

/-- A letter repeated is a key of one name, as long as it is short enough. -/
theorem valid_replicate {n : Nat} (positive : 0 < n) (short : n ≤ maxBytes) :
    Valid (String.ofList (List.replicate n 'x')) ∧
      names (String.ofList (List.replicate n 'x')) = [String.ofList (List.replicate n 'x')] := by
  have letters : (String.ofList (List.replicate n 'x')).toList = List.replicate n 'x' :=
    String.toList_ofList
  have unslashed : '/' ∉ (String.ofList (List.replicate n 'x')).toList := by
    rw [letters, List.mem_replicate]
    exact fun h => absurd h.2 (by decide)
  have size := utf8ByteSize_replicate n
  refine ⟨valid_iff.mpr ⟨?_, size.symm ▸ short, ?_, ?_⟩, names_of_unslashed unslashed⟩
  · rw [← Bool.not_eq_true, String.isEmpty_iff, ← String.utf8ByteSize_eq_zero_iff, size]
    omega
  · rw [letters, List.any_replicate, if_neg (by omega)]
    rfl
  · obtain ⟨m, rfl⟩ := Nat.exists_eq_add_of_lt positive
    rw [segments_of_unslashed unslashed, letters]
    rfl

end BlobDepot.BlobKey
