import BlobDepot.Proofs.Cache.Unguarded

/-! # Sums of a cache in words

The bytes of a cache are added and subtracted one entry at a time, and while an entry is
overwritten their sum may exceed the byte limit.  It never exceeds twice the limit, since the old
entries and the new value are within the limit each.

So if twice the limit is a number of 64 bits, as the number of slots is anyway, a cache may be kept
with words.  No sum leaves them, nothing is subtracted from less than itself, and what a cache
answers and holds after each call is what it would be with numbers (`created_run_in_words`).
-/

namespace BlobDepot.Cache

namespace Reckoning

/-- Sums that need more than 64 bits and differences below zero have no result. -/
def checked : Reckoning where
  plus a b := if a + b < UInt64.size then some (a + b) else none
  minus a b := if b ≤ a then some (a - b) else none

/-- Words of 64 bits, which wrap around. -/
def words : Reckoning where
  plus a b := some (UInt64.ofNat a + UInt64.ofNat b).toNat
  minus a b := some (UInt64.ofNat a - UInt64.ofNat b).toNat

theorem exactBelow_checked : checked.ExactBelow UInt64.size where
  plus less := if_pos less
  minus le _ := if_pos le

theorem toNat_add_ofNat {a b : Nat} (less : a + b < UInt64.size) :
    (UInt64.ofNat a + UInt64.ofNat b).toNat = a + b := by
  have left : (UInt64.ofNat a).toNat = a := UInt64.toNat_ofNat_of_lt' (by omega)
  have right : (UInt64.ofNat b).toNat = b := UInt64.toNat_ofNat_of_lt' (by omega)
  rw [UInt64.toNat_add, left, right]
  exact Nat.mod_eq_of_lt less

theorem toNat_sub_ofNat {a b : Nat} (le : b ≤ a) (less : a < UInt64.size) :
    (UInt64.ofNat a - UInt64.ofNat b).toNat = a - b := by
  have left : (UInt64.ofNat a).toNat = a := UInt64.toNat_ofNat_of_lt' less
  have right : (UInt64.ofNat b).toNat = b := UInt64.toNat_ofNat_of_lt' (by omega)
  have order : UInt64.ofNat b ≤ UInt64.ofNat a := by rwa [UInt64.le_iff_toNat_le, left, right]
  rw [UInt64.toNat_sub_of_le _ _ order, left, right]

theorem exactBelow_words : words.ExactBelow UInt64.size where
  plus less := congrArg some (toNat_add_ofNat less)
  minus le less := congrArg some (toNat_sub_ofNat le less)

/-- What each call of a sequence answers, with the cache after it. -/
def transcript (r : Reckoning) (c : Cache) : List Call → Option (List (Answer × Cache))
  | [] => some []
  | call :: calls => do
    let (answer, next) ← r.step c call
    let later ← r.transcript next calls
    some ((answer, next) :: later)

theorem transcript_eq {r : Reckoning} {bound : Nat} (exact : r.ExactBelow bound) {c : Cache}
    (h : c.Coherent) (slots : c.capacity < bound) (bytes : 2 * c.byteLimit < bound)
    (calls : List Call) : r.transcript c calls = some (c.transcript calls) := by
  induction calls generalizing c with
  | nil => rfl
  | cons call calls ih =>
    obtain ⟨next, limits⟩ := h.step call
    have later := ih next (limits.1 ▸ slots) (limits.2 ▸ bytes)
    rw [transcript, step_eq exact h slots bytes call]
    simp only [Option.bind_eq_bind, Option.bind_some, later, Cache.transcript]

end Reckoning

variable {capacity byteLimit : Nat} {c : Cache}

/-- Whatever calls a new cache receives, and however long their values are, no sum and no
    difference of its bytes, its slots or its hand leaves the numbers of 64 bits.  So a cache that
    is kept with words answers each call as one that is kept with numbers, and is the same
    after it. -/
theorem created_run_in_words (created : create capacity byteLimit = .ok c)
    (slots : capacity < UInt64.size) (bytes : 2 * byteLimit < UInt64.size) (calls : List Call) :
    Reckoning.checked.transcript c calls = some (c.transcript calls) ∧
      Reckoning.words.transcript c calls = some (c.transcript calls) := by
  obtain ⟨positive, rfl⟩ := create_eq_ok_iff.mp created
  have coherent := coherent_empty positive byteLimit
  exact ⟨Reckoning.transcript_eq Reckoning.exactBelow_checked coherent slots bytes calls,
    Reckoning.transcript_eq Reckoning.exactBelow_words coherent slots bytes calls⟩

/-- An entry grows while the cache is full, so that the sum is almost twice the limit until the
    other one has left. -/
theorem created_run_in_words_of_growth :
    let c := empty 2 5
    let calls := [.set "a" ⟨#[1, 1, 1, 1]⟩, .set "b" ⟨#[2]⟩, .get "a", .set "b" ⟨#[3, 3, 3, 3, 3]⟩]
    create 2 5 = .ok c ∧ 2 < UInt64.size ∧ 2 * 5 < UInt64.size ∧
      c.evictions calls = [⟨"a", 4, 5⟩] ∧
      Reckoning.checked.transcript c calls = some (c.transcript calls) ∧
      Reckoning.words.transcript c calls = some (c.transcript calls) := by
  intro c calls
  have created : create 2 5 = .ok c := rfl
  have slots : 2 < UInt64.size := by decide
  have bytes : 2 * 5 < UInt64.size := by decide
  exact ⟨created, slots, bytes, by decide +kernel, created_run_in_words created slots bytes calls⟩

end BlobDepot.Cache
