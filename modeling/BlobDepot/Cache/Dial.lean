import BlobDepot.Bytes

/-! # The dial of a clock

The cached blobs stand on a dial: a fixed number of slots in a circle, and a hand
that goes round.  A newcomer takes the slot that was emptied last.  Each entry
carries a reference bit, which is clear while the entry has not been used since
it came or since the hand last passed it.

To make room the hand moves on until it meets an entry whose bit is clear.
Entries whose bit is set lose the bit and stay.

* `Dial.tick` is one move of the hand.
* `Dial.expel` lets the hand move until an entry leaves.  One round clears every
  bit, so two rounds always find an entry.
-/

namespace BlobDepot.Cache

/-! ## Entries -/

/-- A cached blob under its key, with the number of its bytes and its reference
    bit. -/
structure Entry where
  key : String
  value : ByteArray
  size : Nat
  referenced : Bool
  deriving DecidableEq

namespace Entry

/-- A newcomer, which has to be used before the hand spares it. -/
def fresh (key : String) (value : ByteArray) : Entry :=
  { key, value, size := value.size, referenced := false }

/-- The entry after a use. -/
def mark (e : Entry) : Entry :=
  { e with referenced := true }

/-- The entry after the hand has passed it. -/
def unmark (e : Entry) : Entry :=
  { e with referenced := false }

/-- The entry with a new value, which counts as a use. -/
def renew (e : Entry) (value : ByteArray) : Entry :=
  { e with value, size := value.size, referenced := true }

@[simp] theorem size_mark (e : Entry) : e.mark.size = e.size := rfl

@[simp] theorem size_unmark (e : Entry) : e.unmark.size = e.size := rfl

@[simp] theorem size_renew (e : Entry) (v : ByteArray) : (e.renew v).size = v.size := rfl

@[simp] theorem key_mark (e : Entry) : e.mark.key = e.key := rfl

@[simp] theorem key_unmark (e : Entry) : e.unmark.key = e.key := rfl

@[simp] theorem key_renew (e : Entry) (v : ByteArray) : (e.renew v).key = e.key := rfl

@[simp] theorem unmark_unmark (e : Entry) : e.unmark.unmark = e.unmark := rfl

@[simp] theorem unmark_mark (e : Entry) : e.mark.unmark = e.unmark := rfl

theorem unmark_of_clear {e : Entry} (clear : e.referenced = false) : e.unmark = e := by
  obtain ⟨key, value, size, bit⟩ := e
  simp only [unmark, mk.injEq, true_and]
  exact clear.symm

end Entry

/-! ## The dial -/

/-- Slots in a circle, the empty ones also as a stack, and the slot to which the
    hand points. -/
structure Dial where
  slots : Array (Option Entry)
  free : List Nat
  hand : Nat

namespace Dial

/-- A dial of empty slots, to be filled in their order. -/
def empty (capacity : Nat) : Dial :=
  ⟨Array.replicate capacity none, List.range capacity, 0⟩

def capacity (d : Dial) : Nat :=
  d.slots.size

/-- The number of entries: the slots that are not on the stack. -/
def size (d : Dial) : Nat :=
  d.slots.size - d.free.length

def occupant? (d : Dial) (i : Nat) : Option Entry :=
  d.slots[i]?.join

/-- Changes the entry in a slot; an empty slot stays empty. -/
def modify (d : Dial) (i : Nat) (f : Entry → Entry) : Dial :=
  { d with slots := d.slots.modify i (Option.map f) }

/-- Puts an entry into the slot that was emptied last.  Gives none if no slot is
    empty. -/
def place (d : Dial) (e : Entry) : Option (Nat × Dial) :=
  match d.free with
  | [] => none
  | i :: free => some (i, { d with slots := d.slots.setIfInBounds i (some e), free })

/-- Takes the entry out of a slot.  Gives none if the slot is empty. -/
def vacate (d : Dial) (i : Nat) : Option (Entry × Dial) :=
  (d.occupant? i).map fun e =>
    (e, { d with slots := d.slots.setIfInBounds i none, free := i :: d.free })

def turned (d : Dial) : Dial :=
  { d with hand := (d.hand + 1) % d.slots.size }

/-- One move of the hand.  It passes an empty slot, clears the bit of an entry that
    has it set, and takes an entry out whose bit is clear. -/
def tick (d : Dial) : Option Entry × Dial :=
  match d.occupant? d.hand with
  | none => (none, d.turned)
  | some e =>
    if e.referenced then (none, d.turned.modify d.hand Entry.unmark)
    else
      match d.turned.vacate d.hand with
      | none => (none, d.turned)
      | some (victim, rest) => (some victim, rest)

/-- At most `moves` moves of the hand, the last of them the first that takes an
    entry out. -/
def sweep : Nat → Dial → Option Entry × Dial
  | 0, d => (none, d)
  | moves + 1, d =>
    match d.tick with
    | (some victim, rest) => (some victim, rest)
    | (none, rest) => sweep moves rest

/-- Takes out the first entry that the hand meets with a clear bit, within two
    rounds.  Gives none if there is no entry. -/
def expel (d : Dial) : Option (Entry × Dial) :=
  match d.sweep (2 * d.slots.size) with
  | (some victim, rest) => some (victim, rest)
  | (none, _) => none

@[simp] theorem slots_turned (d : Dial) : d.turned.slots = d.slots := rfl

@[simp] theorem free_turned (d : Dial) : d.turned.free = d.free := rfl

@[simp] theorem occupant?_turned (d : Dial) (i : Nat) : d.turned.occupant? i = d.occupant? i := rfl

@[simp] theorem size_slots_modify (d : Dial) (i : Nat) (f : Entry → Entry) :
    (d.modify i f).slots.size = d.slots.size := by
  simp [modify]

theorem occupant?_modify (d : Dial) (i j : Nat) (f : Entry → Entry) :
    (d.modify i f).occupant? j = if i = j then (d.occupant? j).map f else d.occupant? j := by
  unfold modify occupant?
  simp only [Array.getElem?_modify]
  by_cases h : i = j
  · subst h
    cases d.slots[i]? <;> simp
  · simp [h]

theorem lt_of_occupant? {d : Dial} {i : Nat} {e : Entry} (held : d.occupant? i = some e) :
    i < d.slots.size := by
  rw [occupant?] at held
  refine Nat.lt_of_not_le fun outside => ?_
  rw [Array.getElem?_eq_none outside] at held
  cases held

/-- Whatever is put into one slot, the others keep what they hold. -/
theorem occupant?_put (d : Dial) (i j : Nat) (slot : Option Entry) (free : List Nat) (hand : Nat) :
    occupant? ⟨d.slots.setIfInBounds i slot, free, hand⟩ j =
      if i = j ∧ i < d.slots.size then slot else d.occupant? j := by
  simp only [occupant?, Array.getElem?_setIfInBounds]
  by_cases here : i = j
  · subst here
    by_cases inside : i < d.slots.size
    · simp [inside]
    · simp [inside]
  · simp [here]

theorem occupant?_place {d rest : Dial} {e : Entry} {i : Nat} (h : d.place e = some (i, rest))
    (hi : i < d.slots.size) (j : Nat) :
    rest.occupant? j = if i = j then some e else d.occupant? j := by
  unfold place at h
  split at h
  · simp at h
  · simp only [Option.some.injEq, Prod.mk.injEq] at h
    obtain ⟨hslot, hrest⟩ := h
    rw [← hrest, hslot, occupant?_put]
    simp only [hi, and_true]

theorem occupant?_vacate {d rest : Dial} {e : Entry} {i : Nat} (h : d.vacate i = some (e, rest))
    (j : Nat) :
    d.occupant? i = some e ∧ rest.occupant? j = if i = j then none else d.occupant? j := by
  unfold vacate at h
  simp only [Option.map_eq_some_iff, Prod.mk.injEq] at h
  obtain ⟨found, hfound, rfl, rfl⟩ := h
  refine ⟨hfound, ?_⟩
  rw [occupant?_put]
  simp only [lt_of_occupant? hfound, and_true]

theorem tick_eq (d : Dial) :
    d.tick = match d.occupant? d.hand with
      | none => (none, d.turned)
      | some e =>
        if e.referenced then (none, d.turned.modify d.hand Entry.unmark)
        else (some e, { d.turned with
          slots := d.slots.setIfInBounds d.hand none, free := d.hand :: d.free }) := by
  unfold tick
  cases h : d.occupant? d.hand with
  | none => rfl
  | some e => simp [vacate, h]

end Dial

end BlobDepot.Cache
