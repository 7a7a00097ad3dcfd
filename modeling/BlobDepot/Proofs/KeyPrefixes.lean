import Mathlib.Data.List.DropRight
import BlobDepot.Depot
import BlobDepot.Proofs.KeyNames

/-! # Texts in front of keys

When a text in front of a key gives a key again.  Whether the segments of a text are good can
be told while its characters are read one by one (`goesOn_eq`).  So a key may go on behind
another key or behind a slash that follows one (`Joins.valid_append`), but not behind two
slashes, nor behind a slash at the front.

A prefix is checked without the slashes at its end.  Of the prefixes that pass, those that join
are the ones that make keys of keys (`valid_append_iff`).
-/

namespace BlobDepot.BlobKey

/-- Whether characters, read where a segment starts or inside of one, leave no bad segment. -/
def goesOn (start : Bool) : List Char → Bool
  | [] => !start
  | c :: cs => if c = '/' then !start && goesOn true cs else !(start && c == '.') && goesOn false cs

/-- A text that keys can be put behind: none, a key, or a key and a slash. -/
def Joins (front : String) : Prop :=
  front = "" ∨ Valid front ∨ ∃ key, Valid key ∧ front = key ++ "/"

variable {key front : String} {cs ds : List Char} {start : Bool}

/-! ## Reading characters one by one -/

theorem goesOn_eq (cs : List Char) :
    goesOn true cs = !(cs.splitOn '/').any isBadSegment ∧
      goesOn false cs = !(cs.splitOn '/').tail.any isBadSegment := by
  induction cs with
  | nil => exact ⟨rfl, rfl⟩
  | cons c cs ih =>
    obtain ⟨segment, rest, split⟩ := List.exists_cons_of_ne_nil (List.splitOn_ne_nil '/' cs)
    rw [List.splitOn_cons_eq_if_modifyHead]
    by_cases slash : c = '/'
    · -- A slash ends an empty segment, or one that was fine so far.
      simp [goesOn, slash, ih.1, isBadSegment]
    · rw [if_neg (by simpa using slash), split, List.modifyHead_cons]
      simp [goesOn, slash, ih.2, split, isBadSegment]

theorem valid_iff_goesOn : Valid key ↔ key.utf8ByteSize ≤ maxBytes ∧
    key.toList.any isForbidden = false ∧ goesOn true key.toList = true := by
  rw [valid_iff, (goesOn_eq key.toList).1, Bool.not_eq_true', segments]
  refine ⟨fun h => h.2, fun h => ⟨?_, h⟩⟩
  -- The empty text has an empty segment.
  by_contra empty
  rw [Bool.not_eq_false, String.isEmpty_iff] at empty
  subst empty
  cases h.2.2

/-- What can start a segment can also go on one. -/
theorem goesOn_of_start (good : goesOn true cs = true) : goesOn false cs = true := by
  cases cs with
  | nil => rfl
  | cons c cs =>
    rw [goesOn] at good ⊢
    split at good
    · cases good
    · rename_i other
      rw [Bool.and_eq_true] at good
      rw [if_neg other, good.2]
      rfl

theorem goesOn_append (good : goesOn start cs = true) (more : goesOn false ds = true) :
    goesOn start (cs ++ ds) = true := by
  induction cs generalizing start with
  | nil =>
    rw [goesOn, Bool.not_eq_true'] at good
    subst good
    exact more
  | cons c cs ih =>
    rw [List.cons_append, goesOn]
    rw [goesOn] at good
    split at good
    · rename_i slash
      rw [Bool.and_eq_true] at good
      rw [if_pos slash, good.1, ih good.2]
      rfl
    · rename_i other
      rw [Bool.and_eq_true] at good
      rw [if_neg other, good.1, ih good.2]
      rfl

/-- Nothing makes up for two slashes together. -/
theorem goesOn_slashes (start : Bool) (cs ds : List Char) :
    goesOn start (cs ++ '/' :: '/' :: ds) = false := by
  induction cs generalizing start with
  | nil => simp [goesOn]
  | cons c cs ih => simp [goesOn, ih]

/-! ## Prefixes -/

theorem Joins.valid_append (joins : Joins front) (valid : Valid key)
    (short : front.utf8ByteSize + key.utf8ByteSize ≤ maxBytes) : Valid (front ++ key) := by
  obtain ⟨_, allowed, good⟩ := valid_iff_goesOn.mp valid
  rw [valid_iff_goesOn, String.utf8ByteSize_append, String.toList_append, List.any_append, allowed,
    Bool.or_false]
  refine ⟨short, ?_⟩
  obtain rfl | whole | ⟨key', whole, rfl⟩ := joins
  · exact ⟨rfl, good⟩
  · obtain ⟨_, allowed', good'⟩ := valid_iff_goesOn.mp whole
    exact ⟨allowed', goesOn_append good' (goesOn_of_start good)⟩
  · obtain ⟨_, allowed', good'⟩ := valid_iff_goesOn.mp whole
    rw [String.toList_append, List.any_append, allowed', List.append_assoc]
    exact ⟨rfl, goesOn_append good' good⟩

/-- A prefix is what is checked of it, and slashes. -/
theorem toList_trimmedPrefix (front : String) : ∃ n,
    front.toList = (Depot.trimmedPrefix front).toList ++ List.replicate n '/' := by
  have slashes : front.toList.rtakeWhile (· == '/') =
      List.replicate (front.toList.rtakeWhile (· == '/')).length '/' :=
    List.eq_replicate_of_mem fun c member => by
      simpa using List.mem_rtakeWhile_imp member
  refine ⟨(front.toList.rtakeWhile (· == '/')).length, ?_⟩
  rw [Depot.trimmedPrefix, String.toList_ofList, ← slashes]
  exact List.rdropWhile_append_rtakeWhile.symm

theorem checkPrefix_eq_ok_iff : Depot.checkPrefix front = .ok () ↔
    Depot.trimmedPrefix front = "" ∨ Valid (Depot.trimmedPrefix front) := by
  rw [Depot.checkPrefix, ← check_eq_ok_iff, ← String.isEmpty_iff]
  split
  · simp [*]
  · rename_i other
    cases check (Depot.trimmedPrefix front) <;> simp [other]

/-- A prefix that passes its check gives keys with keys exactly if it joins. -/
theorem valid_append_iff (usable : Depot.checkPrefix front = .ok ()) (valid : Valid key)
    (short : front.utf8ByteSize + key.utf8ByteSize ≤ maxBytes) :
    Valid (front ++ key) ↔ Joins front := by
  refine ⟨fun whole => ?_, fun joins => joins.valid_append valid short⟩
  obtain ⟨_, _, good⟩ := valid_iff_goesOn.mp whole
  obtain ⟨n, split⟩ := toList_trimmedPrefix front
  rw [checkPrefix_eq_ok_iff] at usable
  rw [String.toList_append, split, List.append_assoc] at good
  obtain _ | _ | n := n
  · -- No slash was cut off.
    have same : Depot.trimmedPrefix front = front := String.toList_inj.mp (by simp [split])
    rw [same] at usable
    exact usable.imp_right .inl
  · -- One slash was, and a segment has to stand before it.
    have same : Depot.trimmedPrefix front ++ "/" = front :=
      String.toList_inj.mp (by rw [String.toList_append, split]; rfl)
    obtain empty | whole := usable
    · rw [empty] at good
      simp [goesOn] at good
    · exact .inr (.inr ⟨_, whole, same.symm⟩)
  · have bad := goesOn_slashes true (Depot.trimmedPrefix front).toList
      (List.replicate n '/' ++ key.toList)
    exact absurd good (by simpa [List.replicate_succ] using bad)

/-- There are keys to put behind a text as long as it is shorter than a key may be. -/
theorem exists_valid_short_iff :
    (∃ key, Valid key ∧ front.utf8ByteSize + key.utf8ByteSize ≤ maxBytes) ↔
      front.utf8ByteSize < maxBytes := by
  constructor
  · rintro ⟨key, valid, short⟩
    have positive : key.utf8ByteSize ≠ 0 := by
      intro empty
      rw [String.utf8ByteSize_eq_zero_iff] at empty
      subst empty
      cases valid
    omega
  · intro room
    have one : "a".utf8ByteSize = 1 := rfl
    exact ⟨"a", by decide, by omega⟩

end BlobDepot.BlobKey
