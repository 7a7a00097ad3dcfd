import Mathlib.Algebra.BigOperators.Group.Finset.Piecewise
import Mathlib.Algebra.Order.BigOperators.Group.Finset
import BlobDepot.Cache.Dial

/-! # Slots of a dial

A dial is in order when its stack lists exactly the empty slots, each once, and
the hand points to a slot.

What a slot holds is looked at in two ways.  `Dial.occupant?` shows the entry as it
is.  `Dial.content?` shows it with its bit clear, which is all that matters for
what the cache holds: a hand that only passes changes no content.

`Dial.weigh` adds up a weight over the entries; their bytes and their number are two
cases of it.  A change in one slot changes a single summand.
-/

namespace BlobDepot.Cache.Dial

open Finset (range)

/-- The stack lists exactly the empty slots, each once, and the hand points to a slot. -/
structure InOrder (d : Dial) : Prop where
  mem_free_iff : ∀ i, i ∈ d.free ↔ i < d.slots.size ∧ d.occupant? i = none
  nodup_free : d.free.Nodup
  hand_lt : d.hand < d.slots.size

/-- The entry in a slot, with its bit clear. -/
def content? (d : Dial) (i : Nat) : Option Entry :=
  (d.occupant? i).map Entry.unmark

/-- The sum of a weight over the entries. -/
def weigh (f : Entry → Nat) (d : Dial) : Nat :=
  ∑ i ∈ range d.slots.size, (d.occupant? i).elim 0 f

def bytes (d : Dial) : Nat :=
  d.weigh Entry.size

def count (d : Dial) : Nat :=
  d.weigh fun _ => 1

/-! ## Occupied slots -/

theorem content?_eq_some_iff {d : Dial} {i : Nat} {e : Entry} :
    d.content? i = some e ↔ ∃ e', d.occupant? i = some e' ∧ e'.unmark = e := by
  simp [content?, Option.map_eq_some_iff]

theorem content?_eq_none_iff {d : Dial} {i : Nat} : d.content? i = none ↔ d.occupant? i = none := by
  simp [content?]

@[simp] theorem content?_turned (d : Dial) (i : Nat) : d.turned.content? i = d.content? i := rfl

theorem content?_map {α : Type} {f : Entry → α} (blind : ∀ e, f e.unmark = f e) (d : Dial) (i : Nat) :
    (d.content? i).map f = (d.occupant? i).map f := by
  rw [content?, Option.map_map]
  congr 1
  exact funext blind

theorem elim_content? {f : Entry → Nat} (blind : ∀ e, f e.unmark = f e) (d : Dial) (i : Nat) :
    (d.content? i).elim 0 f = (d.occupant? i).elim 0 f := by
  rw [content?]
  cases d.occupant? i with
  | none => rfl
  | some e => exact blind e

/-! ## Weights -/

/-- A change of one slot changes one summand. -/
theorem weigh_change {f : Entry → Nat} (blind : ∀ e, f e.unmark = f e) {d d' : Dial} {i : Nat}
    (inside : i < d.slots.size) (sizes : d'.slots.size = d.slots.size)
    (others : ∀ j, j ≠ i → d'.content? j = d.content? j) :
    d'.weigh f + (d.content? i).elim 0 f = d.weigh f + (d'.content? i).elim 0 f := by
  have member : i ∈ range d.slots.size := Finset.mem_range.mpr inside
  have rest : ∑ j ∈ (range d.slots.size).erase i, (d'.occupant? j).elim 0 f =
      ∑ j ∈ (range d.slots.size).erase i, (d.occupant? j).elim 0 f := by
    refine Finset.sum_congr rfl fun j hj => ?_
    rw [← elim_content? blind, ← elim_content? blind, others j (Finset.ne_of_mem_erase hj)]
  simp only [weigh]
  rw [sizes, ← Finset.add_sum_erase _ _ member, ← Finset.add_sum_erase _ _ member, rest,
    elim_content? blind, elim_content? blind]
  omega

theorem le_weigh {f : Entry → Nat} {d : Dial} {i : Nat} {e : Entry} (held : d.occupant? i = some e) :
    f e ≤ d.weigh f := by
  have member : i ∈ range d.slots.size := Finset.mem_range.mpr (lt_of_occupant? held)
  have bound := Finset.single_le_sum (f := fun j => (d.occupant? j).elim 0 f)
    (fun _ _ => Nat.zero_le _) member
  simpa [weigh, held] using bound

theorem exists_occupant?_of_weigh {f : Entry → Nat} {d : Dial} (positive : d.weigh f ≠ 0) :
    ∃ i e, d.occupant? i = some e := by
  obtain ⟨i, _, nonzero⟩ := Finset.exists_ne_zero_of_sum_ne_zero positive
  cases held : d.occupant? i with
  | none => simp [held] at nonzero
  | some e => exact ⟨i, e, held⟩

/-- Each slot is either counted or on the stack. -/
theorem InOrder.count_add_free {d : Dial} (ordered : d.InOrder) :
    d.count + d.free.length = d.slots.size := by
  -- The slots are split into the empty ones, which the stack lists, and the others.
  have listed : d.free.toFinset = (range d.slots.size).filter fun i => d.occupant? i = none := by
    ext i
    simp [ordered.mem_free_iff]
  have occupied : d.count = ((range d.slots.size).filter fun i => ¬ d.occupant? i = none).card := by
    unfold count weigh
    rw [Finset.card_filter]
    refine Finset.sum_congr rfl fun i _ => ?_
    cases d.occupant? i <;> simp
  rw [← List.toFinset_card_of_nodup ordered.nodup_free, listed, occupied, Nat.add_comm,
    Finset.card_filter_add_card_filter_not, Finset.card_range]

/-! ## Small changes -/

theorem inOrder_empty {capacity : Nat} (positive : 0 < capacity) : (empty capacity).InOrder where
  mem_free_iff i := by
    simp [empty, occupant?, Array.getElem?_replicate]
    intro inside
    simp [inside]
  nodup_free := List.nodup_range
  hand_lt := by simpa [empty] using positive

theorem occupant?_empty (capacity i : Nat) : (empty capacity).occupant? i = none := by
  unfold empty occupant?
  rw [Array.getElem?_replicate]
  split <;> rfl

theorem weigh_empty (f : Entry → Nat) (capacity : Nat) : (empty capacity).weigh f = 0 := by
  simp [weigh, occupant?_empty]

theorem InOrder.of_occupied {d d' : Dial} (ordered : d.InOrder) (sizes : d'.slots.size = d.slots.size)
    (same : ∀ i, d'.occupant? i = none ↔ d.occupant? i = none) (frees : d'.free = d.free)
    (hand : d'.hand < d.slots.size) : d'.InOrder where
  mem_free_iff i := by rw [frees, sizes, same, ordered.mem_free_iff]
  nodup_free := frees ▸ ordered.nodup_free
  hand_lt := sizes ▸ hand

theorem InOrder.modify {d : Dial} (ordered : d.InOrder) (i : Nat) (f : Entry → Entry) :
    (d.modify i f).InOrder := by
  refine ordered.of_occupied (size_slots_modify d i f) (fun j => ?_) rfl ordered.hand_lt
  rw [occupant?_modify]
  split <;> simp

theorem InOrder.turned {d : Dial} (ordered : d.InOrder) : d.turned.InOrder := by
  refine ordered.of_occupied rfl (fun _ => Iff.rfl) rfl ?_
  exact Nat.mod_lt _ (Nat.lt_of_le_of_lt (Nat.zero_le _) ordered.hand_lt)

theorem InOrder.vacate {d rest : Dial} {i : Nat} {e : Entry} (ordered : d.InOrder)
    (taken : d.vacate i = some (e, rest)) :
    rest.InOrder ∧ rest.slots.size = d.slots.size ∧ rest.hand = d.hand ∧ d.occupant? i = some e ∧
      ∀ j, rest.occupant? j = if j = i then none else d.occupant? j := by
  have held := (occupant?_vacate taken i).1
  have slots : ∀ j, rest.occupant? j = if j = i then none else d.occupant? j := by
    intro j
    simpa [eq_comm] using (occupant?_vacate taken j).2
  have inside := lt_of_occupant? held
  rw [Dial.vacate] at taken
  simp only [held, Option.map_some, Option.some.injEq, Prod.mk.injEq, true_and] at taken
  subst taken
  refine ⟨⟨fun j => ?_, ?_, ?_⟩, by simp, rfl, held, slots⟩
  · -- The emptied slot is on top of the stack.
    rw [slots j, List.mem_cons, ordered.mem_free_iff]
    by_cases same : j = i
    · simp [same, inside]
    · simp [same]
  · -- It was not on the stack before, since it was occupied.
    refine List.nodup_cons.mpr ⟨fun listed => ?_, ordered.nodup_free⟩
    rw [ordered.mem_free_iff, held] at listed
    cases listed.2
  · simpa using ordered.hand_lt

theorem InOrder.place {d rest : Dial} {i : Nat} {e : Entry} (ordered : d.InOrder)
    (placed : d.place e = some (i, rest)) :
    rest.InOrder ∧ rest.slots.size = d.slots.size ∧ i < d.slots.size ∧ d.occupant? i = none ∧
      ∀ j, rest.occupant? j = if j = i then some e else d.occupant? j := by
  have placed' := placed
  rw [Dial.place] at placed'
  cases stack : d.free with
  | nil => simp [stack] at placed'
  | cons top below =>
    simp only [stack, Option.some.injEq, Prod.mk.injEq] at placed'
    obtain ⟨rfl, rfl⟩ := placed'
    obtain ⟨inside, vacant⟩ := (ordered.mem_free_iff top).mp (by simp [stack])
    have slots := fun j => occupant?_place placed inside j
    have distinct := ordered.nodup_free
    rw [stack, List.nodup_cons] at distinct
    refine ⟨⟨fun j => ?_, distinct.2, ?_⟩, by simp, inside, vacant, ?_⟩
    · -- The slot is not empty any more, and nor is it listed below.
      have listed := ordered.mem_free_iff j
      rw [stack, List.mem_cons] at listed
      rw [slots j]
      by_cases same : top = j
      · subst same
        simp [distinct.1]
      · simp only [same, if_false, Array.size_setIfInBounds, ← listed]
        simp [Ne.symm same]
    · simpa using ordered.hand_lt
    · intro j
      simpa [eq_comm] using slots j

theorem InOrder.place_isSome {d : Dial} (ordered : d.InOrder) (room : d.count < d.slots.size)
    (e : Entry) : ∃ i rest, d.place e = some (i, rest) := by
  have total := ordered.count_add_free
  rw [Dial.place]
  cases stack : d.free with
  | nil =>
    -- With an empty stack all slots would be counted.
    simp [stack] at total
    omega
  | cons top below => exact ⟨_, _, rfl⟩

end BlobDepot.Cache.Dial
