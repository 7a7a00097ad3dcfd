import BlobDepot.Proofs.Cache.Contents

/-! # The place of a newcomer

The hand empties a slot and goes on by one.  So the slot that was emptied last lies right behind
the hand, and it is on top of the stack (`Expels.vacated`).  A newcomer takes that slot, whatever
else was emptied before, and the hand comes to it after all others (`Vacated.comesLast`).

Making room ends with a slot emptied by the hand if anybody leaves at all
(`vacated_expelUntil`), and then the newcomer is the last in turn
(`Reachable.newcomer_comes_last`).
-/

namespace BlobDepot.Cache

namespace Dial

/-- The slot on top of the stack is the last that the hand has come past. -/
def Vacated (d : Dial) : Prop :=
  ∃ i below, d.free = i :: below ∧ d.hand = (i + 1) % d.slots.size

/-- Slot `i` holds the entry `e`, and the hand comes to all other entries before it. -/
structure ComesLast (d : Dial) (i : Nat) (e : Entry) : Prop where
  held : d.occupant? i = some e
  last : ∀ j x, d.occupant? j = some x → j ≠ i → d.ahead j < d.ahead i

variable {d d' : Dial} {e : Entry} {i : Nat}

theorem Expels.vacated (expels : d.Expels e d') : d'.Vacated := by
  induction expels with
  | @take d e ripe => exact ⟨d.hand, d.free, rfl, by rw [size_slots_takeOut]; rfl⟩
  | pass _ _ ih => exact ih

theorem behind_hand (ordered : d.InOrder) (inside : i < d.slots.size)
    (hand : d.hand = (i + 1) % d.slots.size) :
    i = (d.hand + d.slots.size - 1) % d.slots.size := by
  have round : d.hand + d.slots.size - 1 = d.hand + d.ahead i := by
    have := ahead_behind inside hand
    omega
  rw [round, hand_add_ahead ordered inside]

/-- Different slots are differently far ahead. -/
theorem ahead_injective {j : Nat} (ordered : d.InOrder) (inside : i < d.slots.size)
    (inside' : j < d.slots.size) (same : d.ahead j = d.ahead i) : j = i := by
  rw [← hand_add_ahead ordered inside, ← same, hand_add_ahead ordered inside']

/-- What comes into the slot that the hand emptied last comes last. -/
theorem Vacated.comesLast {rest : Dial} (vacated : d.Vacated) (ordered : d.InOrder)
    (placed : d.place e = some (i, rest)) :
    i = (rest.hand + d.slots.size - 1) % d.slots.size ∧ rest.ComesLast i e := by
  obtain ⟨ordered', sizes, inside, -, slots⟩ := ordered.place placed
  obtain ⟨top, below, stack, hand⟩ := vacated
  have filled : top = i ∧ rest.hand = d.hand := by
    rw [place, stack] at placed
    cases placed
    exact ⟨rfl, rfl⟩
  rw [filled.1, ← sizes, ← filled.2] at hand
  rw [← sizes] at inside
  have round := ahead_behind inside hand
  refine ⟨sizes ▸ behind_hand ordered' inside hand, by rw [slots, if_pos rfl], fun j x held other => ?_⟩
  have inside' := lt_of_occupant? held
  have near := ahead_lt ordered' inside'
  have apart : rest.ahead j ≠ rest.ahead i := fun same =>
    other (ahead_injective ordered' inside inside' same)
  omega

end Dial

variable {c c' : Cache} {key : String} {value : ByteArray}

theorem vacated_expel {out : Eviction} (left : c.expel = some (out, c')) : c'.dial.Vacated := by
  obtain ⟨e, dial, expels, rfl, rfl⟩ := expel_eq_some left
  exact expels.vacated

/-- If anybody leaves to make room, the last of them leaves the slot right behind the hand. -/
theorem vacated_expelUntil {fits : Cache → Bool} {rounds : Nat}
    (crowded : (expelUntil fits rounds c).1 ≠ []) : (expelUntil fits rounds c).2.dial.Vacated := by
  obtain stop | ⟨full, out, rest, left⟩ := stop_or_expel fits c
  · rw [expelUntil_stop stop] at crowded
    exact absurd rfl crowded
  · cases rounds with
    | zero => exact absurd rfl crowded
    | succ rounds =>
      rw [expelUntil_next full left]
      exact expelUntil_keeps (P := fun c => c.dial.Vacated) (fun _ left => vacated_expel left) rounds
        (vacated_expel left)

/-- Only a value that is stored costs anybody the place. -/
theorem small_of_evicted (crowded : (c.set key value).evicted ≠ []) : value.size ≤ c.byteLimit := by
  by_contra large
  rw [set, if_pos (Nat.not_le.mp large)] at crowded
  exact crowded rfl

/-- A value that comes under a new key at the cost of others takes the slot right behind the hand,
    with its bit clear, and the hand comes to all other entries before it. -/
theorem Reachable.newcomer_comes_last (h : c.Reachable) (new : c.contains key = false)
    (crowded : (c.set key value).evicted ≠ []) :
    let after := (c.set key value).cache
    (c.set key value).verdict = .stored ∧ ∃ i, after.index[key]? = some i ∧
      i = (after.dial.hand + c.capacity - 1) % c.capacity ∧
      after.dial.ComesLast i (.fresh key value) := by
  have consistent := h.coherent.toConsistent
  have unlisted := contains_eq_false_iff.mp new
  have small := small_of_evicted crowded
  obtain ⟨i, dial, placed, added⟩ := consistent.add_eq key small
  have stored : c.set key value = c.add key value := by
    rw [set, if_neg (Nat.not_lt.mpr small), unlisted]
  rw [stored, added] at crowded ⊢
  have roomy := consistent.makeRoom (hasRoomFor value.size)
  have sizes := roomy.slots_size.trans (sameLimits_makeRoom c _).1
  obtain ⟨behind, last⟩ := (vacated_expelUntil crowded).comesLast roomy.inOrder placed
  exact ⟨rfl, i, by simp, sizes ▸ behind, last⟩

/-- A key was forgotten, a bit is cleared, and two entries leave for their bytes, in slots behind
    that of the forgotten key.  The newcomer comes into the last slot, right behind the hand. -/
theorem Reachable.newcomer_comes_last_of_bytes :
    let c := (empty 4 8).run [.set "a" ⟨#[1, 1]⟩, .set "b" ⟨#[2, 2]⟩, .set "c" ⟨#[3, 3]⟩,
      .set "d" ⟨#[4, 4]⟩, .forget "b", .get "a"]
    let large : ByteArray := ⟨#[5, 5, 5, 5, 5]⟩
    let after := (c.set "e" large).cache
    c.contains "e" = false ∧ (c.set "e" large).evicted = [⟨"c", 2, 4⟩, ⟨"d", 2, 2⟩] ∧
      after.dial.hand = 0 ∧ (c.set "e" large).verdict = .stored ∧
      ∃ i, after.index["e"]? = some i ∧ i = (after.dial.hand + c.capacity - 1) % c.capacity ∧
        after.dial.ComesLast i (.fresh "e" large) :=
  ⟨by decide +kernel, by decide +kernel, by decide +kernel,
    Reachable.newcomer_comes_last ⟨4, 8, _, by decide, rfl⟩ (by decide +kernel) (by decide +kernel)⟩

end BlobDepot.Cache
