import BlobDepot.Proofs.Cache.Slots

/-! # The sweep of the hand

A move of the hand either passes its slot or takes the entry there out.
`Dial.Expels` is the sequence of such moves that ends with an entry taken out, and
whatever `Dial.expel` finds was found in this way (`expels_of_expel`).  What the hand
does to a dial is proved once per move, by induction on `Dial.Expels`.
-/

namespace BlobDepot.Cache.Dial

/-- The entry under the hand has its bit clear. -/
def Ripe (d : Dial) (e : Entry) : Prop :=
  d.occupant? d.hand = some e ∧ e.referenced = false

/-- The dial after the hand has passed its slot. -/
def pass (d : Dial) : Dial :=
  d.turned.modify d.hand Entry.unmark

/-- The dial after the hand has emptied its slot. -/
def takeOut (d : Dial) : Dial :=
  { d.turned with slots := d.slots.setIfInBounds d.hand none, free := d.hand :: d.free }

/-- The hand passes slots until it takes an entry out. -/
inductive Expels : Dial → Entry → Dial → Prop where
  | take {d : Dial} {e : Entry} (ripe : d.Ripe e) : Expels d e d.takeOut
  | pass {d d' : Dial} {e : Entry} (unripe : ∀ x, ¬ d.Ripe x) (later : Expels d.pass e d') :
      Expels d e d'

/-! ## One move -/

@[simp] theorem size_slots_pass (d : Dial) : d.pass.slots.size = d.slots.size :=
  size_slots_modify ..

@[simp] theorem hand_pass (d : Dial) : d.pass.hand = (d.hand + 1) % d.slots.size := rfl

theorem occupant?_pass (d : Dial) (i : Nat) :
    d.pass.occupant? i = if d.hand = i then (d.occupant? i).map Entry.unmark else d.occupant? i := by
  rw [pass, occupant?_modify, occupant?_turned]

@[simp] theorem content?_pass (d : Dial) (i : Nat) : d.pass.content? i = d.content? i := by
  rw [content?, occupant?_pass]
  split
  · rw [Option.map_map]
    rfl
  · rfl

@[simp] theorem size_slots_takeOut (d : Dial) : d.takeOut.slots.size = d.slots.size := by
  simp [takeOut]

theorem vacate_turned {d : Dial} {e : Entry} (ripe : d.Ripe e) :
    d.turned.vacate d.hand = some (e, d.takeOut) := by
  simp [vacate, ripe.1, takeOut]

theorem content?_of_ripe {d : Dial} {e : Entry} (ripe : d.Ripe e) : d.content? d.hand = some e := by
  rw [content?, ripe.1, Option.map_some, Entry.unmark_of_clear ripe.2]

/-- The hand takes an entry out, or it passes its slot. -/
theorem ripe_or_unripe (d : Dial) : (∃ e, d.Ripe e) ∨ ∀ e, ¬ d.Ripe e := by
  by_cases ripe : ∃ e, d.Ripe e
  · exact .inl ripe
  · exact .inr fun e h => ripe ⟨e, h⟩

theorem tick_of_ripe {d : Dial} {e : Entry} (ripe : d.Ripe e) : d.tick = (some e, d.takeOut) := by
  rw [tick_eq, ripe.1]
  simp [ripe.2, takeOut]

theorem tick_of_unripe {d : Dial} (unripe : ∀ e, ¬ d.Ripe e) : d.tick = (none, d.pass) := by
  rw [tick_eq]
  cases held : d.occupant? d.hand with
  | none =>
    -- Clearing the bit of an empty slot changes nothing.
    have untouched : d.slots.modify d.hand (Option.map Entry.unmark) = d.slots := by
      apply Array.ext_getElem?
      intro j
      rw [Array.getElem?_modify]
      by_cases here : d.hand = j
      · subst here
        simp only [occupant?, Option.join_eq_none_iff] at held
        obtain outside | vacant := held
        · simp [outside]
        · simp [vacant]
      · simp [here]
    simp only [pass, modify, slots_turned, untouched]
    rfl
  | some e =>
    have marked : e.referenced = true := by
      by_contra clear
      exact unripe e ⟨held, by simpa using clear⟩
    simp [marked, pass]

theorem InOrder.pass {d : Dial} (ordered : d.InOrder) : d.pass.InOrder :=
  ordered.turned.modify ..

theorem InOrder.takeOut {d : Dial} {e : Entry} (ordered : d.InOrder) (ripe : d.Ripe e) :
    d.takeOut.InOrder :=
  (ordered.turned.vacate (vacate_turned ripe)).1

theorem content?_takeOut {d : Dial} {e : Entry} (ripe : d.Ripe e) (j : Nat) :
    d.takeOut.content? j = if j = d.hand then none else d.content? j := by
  have slots := (occupant?_vacate (vacate_turned ripe) j).2
  simp only [content?, slots, occupant?_turned]
  by_cases here : d.hand = j
  · simp [here]
  · simp [here, Ne.symm here]

/-! ## What a sweep does -/

theorem sweep_of_ripe {d : Dial} {e : Entry} (ripe : d.Ripe e) (moves : Nat) :
    d.sweep (moves + 1) = (some e, d.takeOut) := by
  rw [sweep, tick_of_ripe ripe]

theorem sweep_of_unripe {d : Dial} (unripe : ∀ e, ¬ d.Ripe e) (moves : Nat) :
    d.sweep (moves + 1) = d.pass.sweep moves := by
  rw [sweep, tick_of_unripe unripe]

theorem expels_of_sweep {moves : Nat} {d d' : Dial} {e : Entry}
    (found : d.sweep moves = (some e, d')) : d.Expels e d' := by
  induction moves generalizing d with
  | zero => cases found
  | succ moves ih =>
    obtain ⟨x, ripe⟩ | unripe := d.ripe_or_unripe
    · rw [sweep_of_ripe ripe] at found
      cases found
      exact .take ripe
    · rw [sweep_of_unripe unripe] at found
      exact .pass unripe (ih found)

theorem sweep_of_expel {d d' : Dial} {e : Entry} (found : d.expel = some (e, d')) :
    d.sweep (2 * d.slots.size) = (some e, d') := by
  rw [expel] at found
  split at found
  · rename_i victim rest swept
    cases found
    exact swept
  · cases found

theorem expels_of_expel {d d' : Dial} {e : Entry} (found : d.expel = some (e, d')) :
    d.Expels e d' :=
  expels_of_sweep (sweep_of_expel found)

theorem Expels.inOrder {d d' : Dial} {e : Entry} (h : d.Expels e d') (ordered : d.InOrder) :
    d'.InOrder := by
  induction h with
  | take ripe => exact ordered.takeOut ripe
  | pass _ _ ih => exact ih ordered.pass

theorem Expels.size_slots {d d' : Dial} {e : Entry} (h : d.Expels e d') :
    d'.slots.size = d.slots.size := by
  induction h with
  | take _ => exact size_slots_takeOut _
  | pass _ _ ih => exact ih.trans (size_slots_pass _)

/-- A sweep empties one slot and, bits aside, changes nothing else. -/
theorem Expels.content? {d d' : Dial} {e : Entry} (h : d.Expels e d') :
    ∃ i, d.content? i = some e ∧ ∀ j, d'.content? j = if j = i then none else d.content? j := by
  induction h with
  | @take d e ripe => exact ⟨d.hand, content?_of_ripe ripe, content?_takeOut ripe⟩
  | pass _ _ ih =>
    obtain ⟨i, held, others⟩ := ih
    exact ⟨i, by simpa using held, by simpa using others⟩

/-! ## The way of the hand -/

/-- The number of moves after which the hand comes to a slot. -/
def ahead (d : Dial) (i : Nat) : Nat :=
  if d.hand ≤ i then i - d.hand else i + d.slots.size - d.hand

theorem ahead_lt {d : Dial} {i : Nat} (ordered : d.InOrder) (inside : i < d.slots.size) :
    d.ahead i < d.slots.size := by
  have := ordered.hand_lt
  rw [ahead]
  split <;> omega

@[simp] theorem ahead_hand (d : Dial) : d.ahead d.hand = 0 := by
  simp [ahead]

/-- With every move the hand comes nearer to the slots that it has not just passed. -/
theorem ahead_of_turned {d : Dial} (d' : Dial) {i : Nat} (ordered : d.InOrder) (inside : i < d.slots.size)
    (elsewhere : d.hand ≠ i) (sizes : d'.slots.size = d.slots.size)
    (turned : d'.hand = (d.hand + 1) % d.slots.size) : d'.ahead i + 1 = d.ahead i := by
  have bound := ordered.hand_lt
  simp only [ahead, turned, sizes]
  by_cases last : d.hand + 1 = d.slots.size
  · -- The hand comes round to the first slot.
    rw [last, Nat.mod_self]
    split <;> split <;> omega
  · rw [Nat.mod_eq_of_lt (by omega)]
    split <;> split <;> omega

/-- The hand needs a whole round but one move to come to the slot right behind it. -/
theorem ahead_behind {d : Dial} {i : Nat} (inside : i < d.slots.size)
    (hand : d.hand = (i + 1) % d.slots.size) : d.ahead i + 1 = d.slots.size := by
  rw [ahead, hand]
  by_cases last : i + 1 = d.slots.size
  · -- The hand has come round to the first slot.
    rw [last, Nat.mod_self]
    split <;> omega
  · rw [Nat.mod_eq_of_lt (by omega)]
    split <;> omega

theorem ahead_pass_hand {d : Dial} (ordered : d.InOrder) :
    d.pass.ahead d.hand + 1 = d.slots.size := by
  rw [← size_slots_pass d]
  exact ahead_behind (by rw [size_slots_pass]; exact ordered.hand_lt) (by rw [size_slots_pass, hand_pass])

end BlobDepot.Cache.Dial
