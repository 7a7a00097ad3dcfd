import BlobDepot.Cache.Basic
import BlobDepot.Proofs.Cache.Slots

/-! # Agreement between the parts of a cache

The index, the slots, the stack of empty slots and the byte counter of a cache are
changed one by one.  `Cache.Consistent` says that they agree.  It leaves the byte
limit out, since an entry that is overwritten by a larger one may exceed it until
other entries have left.

All operations are made of three changes, and each of them keeps the agreement:

* an entry leaves and its key is unlisted (`Consistent.remove`),
* an entry comes into an empty slot and its key is listed (`Consistent.insert`),
* an entry is changed in its slot (`Consistent.modify`).
-/

namespace BlobDepot.Cache

/-- The parts of a cache agree. -/
structure Consistent (c : Cache) : Prop where
  inOrder : c.dial.InOrder
  slots_size : c.dial.slots.size = c.capacity
  /-- The index maps a key to the slot that holds an entry of that key. -/
  index_iff : ∀ key i, c.index[key]? = some i ↔ (c.dial.occupant? i).map Entry.key = some key
  size_value : ∀ i e, c.dial.occupant? i = some e → e.size = e.value.size
  size_eq : c.size = c.dial.count
  used_eq : c.used = c.dial.bytes

namespace Consistent

variable {c : Cache}

theorem consistent_empty {capacity : Nat} (positive : 0 < capacity) (byteLimit : Nat) :
    (empty capacity byteLimit).Consistent where
  inOrder := Dial.inOrder_empty positive
  slots_size := by simp [empty, Dial.empty]
  index_iff key i := by simp [empty, Dial.occupant?_empty]
  size_value i e held := by
    simp only [empty, Dial.occupant?_empty] at held
    cases held
  size_eq := by
    simp only [size, empty, Dial.count, Dial.weigh_empty]
    rfl
  used_eq := (Dial.weigh_empty ..).symm

/-! ## Reading a consistent cache -/

theorem index_content (h : c.Consistent) (key : String) (i : Nat) :
    c.index[key]? = some i ↔ (c.dial.content? i).map Entry.key = some key := by
  rw [h.index_iff, Dial.content?_map fun _ => rfl]

theorem size_content (h : c.Consistent) {i : Nat} {e : Entry} (held : c.dial.content? i = some e) :
    e.size = e.value.size := by
  obtain ⟨e', held', rfl⟩ := Dial.content?_eq_some_iff.mp held
  exact h.size_value i e' held'

theorem listed (h : c.Consistent) {i : Nat} {e : Entry} (held : c.dial.occupant? i = some e) :
    c.index[e.key]? = some i := by
  rw [h.index_iff, held, Option.map_some]

theorem held_of_listed (h : c.Consistent) {key : String} {i : Nat} (listed : c.index[key]? = some i) :
    ∃ e, c.dial.occupant? i = some e ∧ e.key = key :=
  Option.map_eq_some_iff.mp ((h.index_iff key i).mp listed)

/-- No key stands in two slots. -/
theorem slot_unique (h : c.Consistent) {i j : Nat} {e e' : Entry} (held : c.dial.content? i = some e)
    (held' : c.dial.content? j = some e') (same : e.key = e'.key) : i = j := by
  have first := (h.index_content e.key i).mpr (by rw [held, Option.map_some])
  have second := (h.index_content e'.key j).mpr (by rw [held', Option.map_some])
  rw [same, second] at first
  exact (Option.some.inj first).symm

theorem slot_ne (h : c.Consistent) {key other : String} {i j : Nat} (listed : c.index[key]? = some i)
    (listed' : c.index[other]? = some j) (different : key ≠ other) : i ≠ j := by
  intro same
  subst same
  have held := (h.index_iff key i).mp listed
  rw [(h.index_iff other i).mp listed'] at held
  exact different (Option.some.inj held).symm

theorem slot_ne_of_vacant (h : c.Consistent) {key : String} {i j : Nat}
    (listed : c.index[key]? = some i) (vacant : c.dial.occupant? j = none) : i ≠ j := by
  intro same
  subst same
  have held := (h.index_iff key i).mp listed
  rw [vacant] at held
  cases held

theorem find?_eq_some_iff (h : c.Consistent) {key : String} {i : Nat} {e : Entry} :
    c.find? key = some (i, e) ↔ c.dial.occupant? i = some e ∧ e.key = key := by
  rw [find?]
  simp only [Option.bind_eq_some_iff, Option.map_eq_some_iff, Prod.mk.injEq]
  constructor
  · intro given
    obtain ⟨_, listed, _, held, rfl, rfl⟩ := given
    obtain ⟨e', held', hkey⟩ := h.held_of_listed listed
    rw [held] at held'
    cases held'
    exact ⟨held, hkey⟩
  · intro given
    obtain ⟨held, rfl⟩ := given
    exact ⟨i, h.listed held, e, held, rfl, rfl⟩

theorem size_le_capacity (h : c.Consistent) : c.size ≤ c.capacity := by
  have total := h.inOrder.count_add_free
  rw [h.size_eq, ← h.slots_size]
  omega

theorem size_pos (h : c.Consistent) {i : Nat} {e : Entry} (held : c.dial.occupant? i = some e) :
    0 < c.size := by
  rw [h.size_eq]
  exact Dial.le_weigh (f := fun _ => 1) held

theorem used_of_size_zero (h : c.Consistent) (none : c.size = 0) : c.used = 0 := by
  rw [h.used_eq]
  by_contra positive
  obtain ⟨i, e, held⟩ := Dial.exists_occupant?_of_weigh positive
  have := h.size_pos held
  omega

theorem size_le_used (h : c.Consistent) {i : Nat} {e : Entry} (held : c.dial.occupant? i = some e) :
    e.size ≤ c.used :=
  h.used_eq ▸ Dial.le_weigh held

theorem tallied (h : c.Consistent) (tally : Tally) : ({ c with tally } : Cache).Consistent :=
  ⟨h.inOrder, h.slots_size, h.index_iff, h.size_value, h.size_eq, h.used_eq⟩

/-! ## The three changes -/

theorem remove (h : c.Consistent) {dial : Dial} {i : Nat} {e : Entry} (ordered : dial.InOrder)
    (sizes : dial.slots.size = c.dial.slots.size) (held : c.dial.content? i = some e)
    (slots : ∀ j, dial.content? j = if j = i then none else c.dial.content? j) (tally : Tally) :
    ({ c with index := c.index.erase e.key, dial, used := c.used - e.size, tally } : Cache).Consistent := by
  obtain ⟨e', held', rfl⟩ := Dial.content?_eq_some_iff.mp held
  have inside := Dial.lt_of_occupant? held'
  have vacant : dial.content? i = none := by rw [slots, if_pos rfl]
  have others : ∀ j, j ≠ i → dial.content? j = c.dial.content? j := fun j hj => by
    rw [slots, if_neg hj]
  refine ⟨ordered, sizes.trans h.slots_size, fun key j => ?_, fun j x hx => ?_, ?_, ?_⟩
  · rw [← Dial.content?_map (fun _ => rfl), slots, Std.ExtTreeMap.getElem?_erase]
    simp only [Std.LawfulEqCmp.compare_eq_iff_eq]
    rw [Entry.key_unmark]
    by_cases same : e'.key = key
    · -- The key was listed for slot `i` only, which is empty now.
      subst same
      rw [if_pos rfl]
      by_cases here : j = i
      · simp [here]
      · rw [if_neg here, ← h.index_content, h.listed held']
        simp [Ne.symm here]
    · rw [if_neg same, h.index_content]
      by_cases here : j = i
      · subst here
        rw [held, if_pos rfl]
        simpa using same
      · rw [if_neg here]
  · have content : dial.content? j = some x.unmark := by simp [Dial.content?, hx]
    rw [slots] at content
    split at content
    · cases content
    · exact h.size_content (e := x.unmark) content
  · -- The number of entries drops by one in the index and on the dial.
    have change := Dial.weigh_change (f := fun _ => 1) (fun _ => rfl) inside sizes others
    have listed : c.index.contains e'.unmark.key = true := by
      rw [Std.ExtTreeMap.contains_eq_isSome_getElem?, Entry.key_unmark, h.listed held']
      rfl
    have before := h.size_eq
    simp only [held, vacant, Option.elim_some, Option.elim_none] at change
    simp only [size, Std.ExtTreeMap.size_erase, listed, if_true] at before ⊢
    simp only [Dial.count] at before ⊢
    omega
  · -- The bytes drop by the size of the entry.
    have change := Dial.weigh_change (f := Entry.size) (fun _ => rfl) inside sizes others
    simp only [held, vacant, Option.elim_some, Option.elim_none] at change
    have before := h.used_eq
    simp only [Dial.bytes] at before ⊢
    omega

theorem insert (h : c.Consistent) {dial : Dial} {i : Nat} {key : String} {value : ByteArray}
    (unlisted : c.index[key]? = none)
    (placed : c.dial.place (.fresh key value) = some (i, dial)) :
    ({ c with index := c.index.insert key i, dial, used := c.used + value.size } : Cache).Consistent := by
  obtain ⟨ordered, sizes, inside, vacant, slots⟩ := h.inOrder.place placed
  have held : dial.content? i = some (.fresh key value) := by
    rw [Dial.content?, slots, if_pos rfl]
    rfl
  have vacant' : c.dial.content? i = none := Dial.content?_eq_none_iff.mpr vacant
  have others : ∀ j, j ≠ i → dial.content? j = c.dial.content? j := fun j hj => by
    rw [Dial.content?, slots, if_neg hj, Dial.content?]
  refine ⟨ordered, sizes.trans h.slots_size, fun other j => ?_, fun j x hx => ?_, ?_, ?_⟩
  · rw [slots, Std.ExtTreeMap.getElem?_insert]
    simp only [Std.LawfulEqCmp.compare_eq_iff_eq]
    by_cases same : key = other
    · -- The new key is listed for its slot, and stands in no other.
      subst same
      by_cases here : j = i
      · simp [here, Entry.fresh]
      · rw [if_pos rfl, if_neg here, ← h.index_iff, unlisted]
        simp [Ne.symm here]
    · rw [if_neg same, h.index_iff]
      by_cases here : j = i
      · subst here
        simp [vacant, Entry.fresh, same]
      · rw [if_neg here]
  · rw [slots] at hx
    split at hx
    · cases hx
      rfl
    · exact h.size_value j x hx
  · -- The number of entries grows by one, since the key was not listed.
    have change := Dial.weigh_change (f := fun _ => 1) (fun _ => rfl) inside sizes others
    have absent : c.index.contains key = false := by
      rw [Std.ExtTreeMap.contains_eq_isSome_getElem?, unlisted]
      rfl
    have before := h.size_eq
    simp only [held, vacant', Option.elim_some, Option.elim_none] at change
    simp only [size, Std.ExtTreeMap.size_insert, absent, Bool.false_eq_true, if_false] at before ⊢
    simp only [Dial.count] at before ⊢
    omega
  · have change := Dial.weigh_change (f := Entry.size) (fun _ => rfl) inside sizes others
    simp only [held, vacant', Option.elim_some, Option.elim_none, Entry.fresh] at change
    have before := h.used_eq
    simp only [Dial.bytes] at before ⊢
    omega

theorem modify (h : c.Consistent) {i : Nat} {e : Entry} (held : c.dial.occupant? i = some e)
    {f : Entry → Entry} (hkey : (f e).key = e.key) (hsize : (f e).size = (f e).value.size) :
    ({ c with dial := c.dial.modify i f, used := c.used - e.size + (f e).size } : Cache).Consistent := by
  have inside := Dial.lt_of_occupant? held
  have sizes := Dial.size_slots_modify c.dial i f
  have changed : (c.dial.modify i f).occupant? i = some (f e) := by
    rw [Dial.occupant?_modify, if_pos rfl, held, Option.map_some]
  have apart : ∀ j, j ≠ i → (c.dial.modify i f).occupant? j = c.dial.occupant? j := fun j hj => by
    rw [Dial.occupant?_modify, if_neg (Ne.symm hj)]
  have others : ∀ j, j ≠ i → (c.dial.modify i f).content? j = c.dial.content? j := fun j hj => by
    rw [Dial.content?, apart j hj, Dial.content?]
  refine ⟨h.inOrder.modify i f, sizes.trans h.slots_size, fun key j => ?_, fun j x hx => ?_, ?_, ?_⟩
  · rw [h.index_iff]
    by_cases here : j = i
    · subst here
      rw [changed, held, Option.map_some, Option.map_some, hkey]
    · rw [apart j here]
  · by_cases here : j = i
    · subst here
      rw [changed] at hx
      cases hx
      exact hsize
    · exact h.size_value j x (apart j here ▸ hx)
  · have change := Dial.weigh_change (f := fun _ => 1) (fun _ => rfl) inside sizes others
    have before := h.size_eq
    simp only [Dial.content?, held, changed, Option.map_some, Option.elim_some] at change
    simp only [size, Dial.count] at before ⊢
    omega
  · have change := Dial.weigh_change (f := Entry.size) (fun _ => rfl) inside sizes others
    simp only [Dial.content?, held, changed, Option.map_some, Option.elim_some, Entry.size_unmark] at change
    have before := h.used_eq
    -- The old size is part of the sum, so subtracting it loses nothing.
    have bound := h.size_le_used held
    simp only [Dial.bytes] at before ⊢
    omega

end Consistent

end BlobDepot.Cache
