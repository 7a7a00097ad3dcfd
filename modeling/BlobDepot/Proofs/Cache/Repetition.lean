import BlobDepot.Proofs.Cache.Contents

/-! # Storing what is there already

A value that is offered under a key that holds it takes its own place.  Its size comes off the
bytes in use and is put back, so no room has to be made, and all that is left of the call is
that it counts as a use of the entry (`Coherent.set_of_cached`).  An entry with its bit set
does not even show that (`marked_marked`), so from the second repetition on nothing changes.
-/

namespace BlobDepot.Cache

/-- The cache after a use of a key that is not counted as a look-up. -/
def marked (c : Cache) (key : String) : Cache :=
  match c.index[key]? with
  | none => c
  | some i => { c with dial := c.dial.modify i Entry.mark }

variable {c : Cache} {key : String} {value : ByteArray} {e : Entry} {i : Nat}

/-! ## Entries and slots -/

theorem Entry.renew_value (sized : e.size = e.value.size) : e.renew e.value = e.mark := by
  simp [Entry.renew, Entry.mark, sized]

theorem Dial.modify_congr {d : Dial} {f g : Entry → Entry} (held : d.occupant? i = some e)
    (same : f e = g e) : d.modify i f = d.modify i g := by
  apply Dial.eq_of_occupant?
  · simp
  · intro j
    rw [occupant?_modify, occupant?_modify]
    by_cases here : i = j
    · subst here
      simp [held, same]
    · simp [here]
  · rfl
  · rfl

theorem Dial.modify_of_fixed {d : Dial} {f : Entry → Entry}
    (fixed : ∀ e, d.occupant? i = some e → f e = e) : d.modify i f = d := by
  apply Dial.eq_of_occupant?
  · simp
  · intro j
    rw [occupant?_modify]
    by_cases here : i = j
    · subst here
      cases held : d.occupant? i with
      | none => simp
      | some e => simp [fixed e held]
    · simp [here]
  · rfl
  · rfl

/-! ## Marked entries -/

/-- Of all entries only that of the key is marked. -/
theorem Consistent.occupant?_marked (h : c.Consistent) (key : String) (j : Nat) :
    (c.marked key).dial.occupant? j =
      (c.dial.occupant? j).map fun e => if e.key = key then e.mark else e := by
  cases held : c.dial.occupant? j with
  | none =>
    rw [marked]
    split
    · simp [held]
    · simp [Dial.occupant?_modify, held]
  | some e =>
    rw [Option.map_some, marked]
    by_cases own : e.key = key
    · subst own
      simp [h.listed held, Dial.occupant?_modify, held]
    · rw [if_neg own]
      split
      · exact held
      · rename_i i listed
        -- The slot of the key holds another entry.
        have apart : i ≠ j := by
          intro same
          subst same
          obtain ⟨x, held', rfl⟩ := h.held_of_listed listed
          rw [held, Option.some.injEq] at held'
          exact own (congrArg Entry.key held')
        simp [Dial.occupant?_modify, apart, held]

@[simp] theorem index_marked (c : Cache) (key : String) : (c.marked key).index = c.index := by
  rw [marked]
  split <;> rfl

/-- Nothing but a bit changes. -/
theorem marked_unchanged (c : Cache) (key : String) : c.SameLimits (c.marked key) ∧
    (c.marked key).dial.slots.size = c.dial.slots.size ∧
    (c.marked key).dial.free = c.dial.free ∧ (c.marked key).dial.hand = c.dial.hand ∧
    (c.marked key).used = c.used ∧ (c.marked key).tally = c.tally := by
  rw [marked]
  split
  · exact ⟨⟨rfl, rfl⟩, rfl, rfl, rfl, rfl, rfl⟩
  · exact ⟨⟨rfl, rfl⟩, Dial.size_slots_modify .., rfl, rfl, rfl, rfl⟩

theorem marked_marked (c : Cache) (key : String) : (c.marked key).marked key = c.marked key := by
  have index := index_marked c key
  cases listed : c.index[key]? with
  | none => simp [marked, listed]
  | some i =>
    have once : c.marked key = { c with dial := c.dial.modify i Entry.mark } := by
      simp [marked, listed]
    have fixed : (c.dial.modify i Entry.mark).modify i Entry.mark = c.dial.modify i Entry.mark := by
      apply Dial.modify_of_fixed
      intro e held
      rw [Dial.occupant?_modify, if_pos rfl] at held
      obtain ⟨x, -, rfl⟩ := Option.map_eq_some_iff.mp held
      rfl
    rw [once, marked]
    simp [listed, fixed]

/-! ## The same value once more -/

/-- A value that takes its own place marks its entry. -/
theorem Consistent.replace_same (h : c.Consistent) (held : c.dial.occupant? i = some e) :
    c.replace i e.value = c.marked e.key := by
  have sized := h.size_value i e held
  have bytes : c.used - e.size + e.value.size = c.used := by
    have part := h.size_le_used held
    omega
  have bit : c.dial.modify i (·.renew e.value) = c.dial.modify i Entry.mark :=
    Dial.modify_congr held (Entry.renew_value sized)
  simp only [Cache.replace, marked, held, h.listed held, bytes, bit]

theorem Coherent.set_of_cached (h : c.Coherent) (cached : c.value? key = some value) :
    c.set key value = ⟨.stored, [], c.marked key⟩ := by
  have consistent := h.toConsistent
  obtain ⟨⟨i, e⟩, found, rfl⟩ := Option.map_eq_some_iff.mp cached
  obtain ⟨held, rfl⟩ := consistent.find?_eq_some_iff.mp found
  obtain ⟨limits, -, -, -, used, -⟩ := marked_unchanged c e.key
  have bound := h.used_le
  have small : ¬ c.byteLimit < e.value.size := by
    have sized := consistent.size_value i e held
    have part := consistent.size_le_used held
    omega
  -- The bytes in use are what they were, so the sweep stops before its first step.
  have fits : (c.marked e.key).withinBytes = true := by
    simpa [withinBytes, used, limits.2] using bound
  have still : (c.marked e.key).makeRoom withinBytes = ([], c.marked e.key) :=
    expelUntil_stop (.inl fits) _
  rw [Cache.set, if_neg small, consistent.listed held]
  simp only [overwrite, consistent.replace_same held, still]

theorem Coherent.value?_marked (h : c.Coherent) (cached : c.value? key = some value) :
    (c.marked key).value? key = some value := by
  have after : (c.set key value).cache = c.marked key := by rw [h.set_of_cached cached]
  rw [← after, h.value?_set_iff, h.set_of_cached cached]
  simp

/-- Take a value that is cached after it was stored.  Stored a second time it is stored again,
    nobody leaves, and the cache stays as it is but for the bit of its own entry, which is set
    now.  Stored a third time it changes nothing. -/
theorem Reachable.set_again (h : c.Reachable)
    (cached : (c.set key value).cache.contains key = true) :
    let once := (c.set key value).cache
    let twice := (once.set key value).cache
    (once.set key value).verdict = .stored ∧ (once.set key value).evicted = [] ∧
      (∀ j, twice.dial.occupant? j =
        (once.dial.occupant? j).map fun e => if e.key = key then e.mark else e) ∧
      twice.index = once.index ∧ once.SameLimits twice ∧
      twice.dial.slots.size = once.dial.slots.size ∧ twice.dial.free = once.dial.free ∧
      twice.dial.hand = once.dial.hand ∧ twice.size = once.size ∧ twice.used = once.used ∧
      twice.tally = once.tally ∧ twice.set key value = ⟨.stored, [], twice⟩ := by
  intro once twice
  have before := h.coherent
  have coherent : once.Coherent := before.set key value
  -- What is cached under the key now can only be the value.
  have held : once.value? key = some value := by
    rw [← coherent.toConsistent.isSome_value?, Option.isSome_iff_exists] at cached
    obtain ⟨v, cached⟩ := cached
    obtain ⟨-, rfl⟩ | ⟨other, -⟩ := before.value?_set cached
    · exact cached
    · exact absurd rfl other
  have second : once.set key value = ⟨.stored, [], once.marked key⟩ := coherent.set_of_cached held
  have result : twice = once.marked key := congrArg Placement.cache second
  have marked : (once.marked key).Coherent := result ▸ coherent.set key value
  have third : (once.marked key).set key value = ⟨.stored, [], once.marked key⟩ := by
    rw [marked.set_of_cached (coherent.value?_marked held), marked_marked]
  have slots := coherent.toConsistent.occupant?_marked key
  have index := index_marked once key
  have size : (once.marked key).size = once.size := by rw [Cache.size, index, Cache.size]
  obtain ⟨limits, capacity, free, hand, used, tally⟩ := marked_unchanged once key
  rw [second, result]
  exact ⟨rfl, rfl, slots, index, limits, capacity, free, hand, size, used, tally, third⟩

/-- A value grows until it fills the cache, which takes the other entry out and clears its own
    bit.  The second time sets the bit. -/
theorem Reachable.set_again_of_growth :
    let c := (empty 2 3).run [.set "a" ⟨#[1]⟩, .set "b" ⟨#[2]⟩, .get "a"]
    let grown : ByteArray := ⟨#[3, 4, 5]⟩
    let once := (c.set "b" grown).cache
    let twice := (once.set "b" grown).cache
    (c.set "b" grown).evicted = [⟨"a", 1, 3⟩] ∧ once.contains "b" = true ∧
      once.dial.occupant? 1 = some ⟨"b", grown, 3, false⟩ ∧
      (once.set "b" grown).verdict = .stored ∧ (once.set "b" grown).evicted = [] ∧
      (∀ j, twice.dial.occupant? j =
        (once.dial.occupant? j).map fun e => if e.key = "b" then e.mark else e) ∧
      twice.index = once.index ∧ once.SameLimits twice ∧
      twice.dial.slots.size = once.dial.slots.size ∧ twice.dial.free = once.dial.free ∧
      twice.dial.hand = once.dial.hand ∧ twice.size = once.size ∧ twice.used = once.used ∧
      twice.tally = once.tally ∧ twice.set "b" grown = ⟨.stored, [], twice⟩ :=
  ⟨by decide +kernel, by decide +kernel, by decide +kernel,
    Reachable.set_again ⟨2, 3, _, by decide, rfl⟩ (by decide +kernel)⟩

end BlobDepot.Cache
