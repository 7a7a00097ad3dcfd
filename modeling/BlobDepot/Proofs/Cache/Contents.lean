import BlobDepot.Proofs.Cache.Coherence

/-! # What a cache holds

`Cache.value?` shows a cache as a partial map from keys to values.  Looking up does
not change the map, forgetting takes one key out of it, and making room takes out the
keys of its evictions and no others.  So after a value was stored the map has it under
its key unless the hand took it out at once, and every other key as before unless the
hand took that one out (`Coherent.value?_set_iff`).
-/

namespace BlobDepot.Cache

/-- The value that is cached under a key. -/
def value? (c : Cache) (key : String) : Option ByteArray :=
  (c.find? key).map fun (_, e) => e.value

theorem Consistent.value?_eq_some_iff {c : Cache} (h : c.Consistent) {key : String} {v : ByteArray} :
    c.value? key = some v ↔ ∃ i e, c.dial.content? i = some e ∧ e.key = key ∧ e.value = v := by
  constructor
  · intro cached
    obtain ⟨⟨i, e⟩, found, rfl⟩ := Option.map_eq_some_iff.mp cached
    obtain ⟨held, hkey⟩ := h.find?_eq_some_iff.mp found
    exact ⟨i, e.unmark, Dial.content?_eq_some_iff.mpr ⟨e, held, rfl⟩, hkey, rfl⟩
  · intro given
    obtain ⟨i, _, content, hkey, rfl⟩ := given
    obtain ⟨e, held, rfl⟩ := Dial.content?_eq_some_iff.mp content
    exact Option.map_eq_some_iff.mpr ⟨(i, e), h.find?_eq_some_iff.mpr ⟨held, hkey⟩, rfl⟩

theorem value?_empty (capacity byteLimit : Nat) (key : String) :
    (empty capacity byteLimit).value? key = none := by
  simp [value?, find?, empty]

theorem contains_eq_isSome (c : Cache) (key : String) : c.contains key = c.index[key]?.isSome :=
  Std.ExtTreeMap.contains_eq_isSome_getElem?

theorem contains_eq_false_iff {c : Cache} {key : String} :
    c.contains key = false ↔ c.index[key]? = none := by
  rw [contains_eq_isSome, Option.isSome_eq_false_iff, Option.isNone_iff_eq_none]

theorem Consistent.isSome_value? {c : Cache} (h : c.Consistent) (key : String) :
    (c.value? key).isSome = c.contains key := by
  rw [contains_eq_isSome]
  cases listed : c.index[key]? with
  | none => simp [value?, find?, listed]
  | some i =>
    obtain ⟨e, held, _⟩ := h.held_of_listed listed
    simp [value?, find?, listed, held]

/-! ## Looking up -/

@[simp] theorem get_fst (c : Cache) (key : String) : (c.get key).1 = c.value? key := by
  rw [get, value?]
  cases c.find? key <;> rfl

theorem value?_get {c : Cache} (h : c.Coherent) (key k : String) :
    (c.get key).2.value? k = c.value? k := by
  have after := (h.get key).toConsistent
  -- Only a bit of one entry changes, which no content shows.
  have contents : ∀ i, (c.get key).2.dial.content? i = c.dial.content? i := by
    intro i
    rw [get]
    split
    · rename_i j e _
      simp only [Dial.content?, Dial.occupant?_modify]
      split
      · rw [Option.map_map]
        rfl
      · rfl
    · rfl
  apply Option.ext
  intro v
  rw [after.value?_eq_some_iff, h.toConsistent.value?_eq_some_iff]
  simp only [contents]

/-! ## Taking out -/

/-- An entry that leaves takes its key with it, and the others stay. -/
theorem Consistent.value?_remove {c c' : Cache} (h : c.Consistent) (h' : c'.Consistent) {i : Nat}
    {e : Entry} (held : c.dial.content? i = some e)
    (slots : ∀ j, c'.dial.content? j = if j = i then none else c.dial.content? j)
    {k : String} {v : ByteArray} : c'.value? k = some v ↔ k ≠ e.key ∧ c.value? k = some v := by
  rw [h'.value?_eq_some_iff, h.value?_eq_some_iff]
  constructor
  · intro given
    obtain ⟨j, x, content, rfl, rfl⟩ := given
    rw [slots] at content
    split at content
    · cases content
    · -- The key stands in one slot only, so an entry elsewhere has another one.
      rename_i apart
      exact ⟨fun same => apart (h.slot_unique content held same), j, x, content, rfl, rfl⟩
  · intro given
    obtain ⟨different, j, x, content, rfl, rfl⟩ := given
    have apart : j ≠ i := by
      intro same
      subst same
      rw [held] at content
      cases content
      exact different rfl
    exact ⟨j, x, by rw [slots, if_neg apart, content], rfl, rfl⟩

theorem Consistent.value?_expel {c c' : Cache} {out : Eviction} (h : c.Consistent)
    (left : c.expel = some (out, c')) {k : String} {v : ByteArray} :
    c'.value? k = some v ↔ k ≠ out.key ∧ c.value? k = some v := by
  have h' := h.expel left
  obtain ⟨e, dial, expels, rfl, rfl⟩ := expel_eq_some left
  obtain ⟨i, held, slots⟩ := expels.content?
  exact h.value?_remove h' held slots

theorem Consistent.absent_expel {c c' : Cache} {out : Eviction} (h : c.Consistent)
    (left : c.expel = some (out, c')) {k : String} (absent : c.value? k = none) :
    c'.value? k = none := by
  refine Option.eq_none_iff_forall_ne_some.mpr fun v cached => ?_
  rw [((h.value?_expel left).mp cached).2] at absent
  cases absent

theorem Consistent.value?_forget {c : Cache} (h : c.Consistent) {key k : String} {v : ByteArray} :
    (c.forget key).2.value? k = some v ↔ k ≠ key ∧ c.value? k = some v := by
  cases listed : c.index[key]? with
  | none =>
    rw [forget_of_unlisted listed]
    refine ⟨fun cached => ⟨?_, cached⟩, And.right⟩
    intro same
    subst same
    simp [value?, find?, listed] at cached
  | some i =>
    have h' := h.forget key
    obtain ⟨e, dial, taken, rfl, forgotten⟩ := h.forget_of_listed listed
    obtain ⟨_, _, _, held, slots⟩ := h.inOrder.vacate taken
    rw [forgotten] at h' ⊢
    refine h.value?_remove (e := e.unmark) h' (by rw [Dial.content?, held, Option.map_some]) ?_
    intro j
    rw [Dial.content?, slots]
    split <;> rfl

/-- Making room takes out the keys of its evictions and no others. -/
theorem Consistent.value?_expelUntil {c : Cache} (h : c.Consistent) {fits : Cache → Bool} {rounds : Nat}
    {k : String} {v : ByteArray} :
    (expelUntil fits rounds c).2.value? k = some v ↔
      (∀ out ∈ (expelUntil fits rounds c).1, out.key ≠ k) ∧ c.value? k = some v := by
  induction rounds generalizing c with
  | zero => simp [expelUntil]
  | succ rounds ih =>
    obtain stop | ⟨full, out, rest, left⟩ := stop_or_expel fits c
    · rw [expelUntil_stop stop]
      simp
    · rw [expelUntil_next full left, ih (h.expel left), h.value?_expel left, List.forall_mem_cons]
      constructor
      · rintro ⟨others, other, cached⟩
        exact ⟨⟨other.symm, others⟩, cached⟩
      · rintro ⟨⟨other, others⟩, cached⟩
        exact ⟨others, other.symm, cached⟩

theorem Consistent.absent_expelUntil {c : Cache} (h : c.Consistent) {k : String}
    (absent : c.value? k = none) (fits : Cache → Bool) (rounds : Nat) :
    (expelUntil fits rounds c).2.value? k = none := by
  refine Option.eq_none_iff_forall_ne_some.mpr fun v cached => ?_
  rw [(h.value?_expelUntil.mp cached).2] at absent
  cases absent

/-- A key that is not cached is not among the evictions. -/
theorem Consistent.ne_of_mem_expelUntil {c : Cache} (h : c.Consistent) {fits : Cache → Bool}
    {rounds : Nat} {k : String} (absent : c.value? k = none) {out : Eviction}
    (member : out ∈ (expelUntil fits rounds c).1) : out.key ≠ k := by
  induction rounds generalizing c with
  | zero => cases member
  | succ rounds ih =>
    obtain stop | ⟨full, first, rest, left⟩ := stop_or_expel fits c
    · rw [expelUntil_stop stop] at member
      cases member
    · rw [expelUntil_next full left] at member
      obtain rfl | member := List.mem_cons.mp member
      · -- What leaves first stands in the cache until then.
        obtain ⟨e, dial, expels, rfl, -⟩ := expel_eq_some left
        obtain ⟨i, held, -⟩ := expels.content?
        intro same
        rw [h.value?_eq_some_iff.mpr ⟨i, e, held, same, rfl⟩] at absent
        cases absent
      · exact ih (h.expel left) (h.absent_expel left absent) member

/-! ## Storing -/

theorem Consistent.value?_replace {c : Cache} (h : c.Consistent) {key : String} {i : Nat}
    (listed : c.index[key]? = some i) (value : ByteArray) (k : String) :
    (c.replace i value).value? k = if k = key then some value else c.value? k := by
  obtain ⟨e, held, rfl⟩ := h.held_of_listed listed
  simp only [value?, find?, Cache.replace, held, Dial.occupant?_modify]
  by_cases same : k = e.key
  · subst same
    simp [listed, held, Entry.renew]
  · rw [if_neg same]
    -- Another key stands in another slot, which is not touched.
    cases other : c.index[k]? with
    | none => rfl
    | some j =>
      have apart := h.slot_ne listed other (Ne.symm same)
      simp [apart]

theorem Consistent.value?_insert {c : Cache} (h : c.Consistent) {dial : Dial} {i : Nat} {key : String}
    {value : ByteArray} (placed : c.dial.place (.fresh key value) = some (i, dial)) (used : Nat)
    (k : String) :
    ({ c with index := c.index.insert key i, dial, used } : Cache).value? k =
      if k = key then some value else c.value? k := by
  obtain ⟨_, _, _, vacant, slots⟩ := h.inOrder.place placed
  simp only [value?, find?, Std.ExtTreeMap.getElem?_insert, Std.LawfulEqCmp.compare_eq_iff_eq, slots]
  by_cases same : k = key
  · subst same
    simp [Entry.fresh]
  · rw [if_neg (Ne.symm same), if_neg same]
    cases other : c.index[k]? with
    | none => rfl
    | some j =>
      have apart := h.slot_ne_of_vacant other vacant
      simp [apart]

/-- After a value was offered, a key holds something only if the hand did not take it out
    meanwhile: its own key then holds the value if it was stored, and every other key holds
    what it held before. -/
theorem Coherent.value?_set_iff {c : Cache} (h : c.Coherent) {key k : String} {value v : ByteArray} :
    (c.set key value).cache.value? k = some v ↔
      (∀ out ∈ (c.set key value).evicted, out.key ≠ k) ∧
        ((c.set key value).verdict = .stored ∧ k = key ∧ v = value ∨ k ≠ key ∧ c.value? k = some v) := by
  have consistent := h.toConsistent
  rw [Cache.set]
  split
  · -- A refused value leaves no older copy behind.
    change (c.forget key).2.value? k = some v ↔ _
    rw [consistent.value?_forget]
    simp [reject]
  · rename_i fitting
    split
    · -- The value replaces the older copy before room is made.
      rename_i i listed
      change (expelUntil _ _ (c.replace i value)).2.value? k = some v ↔
        (∀ out ∈ (expelUntil _ _ (c.replace i value)).1, out.key ≠ k) ∧ _
      rw [(consistent.replace i value).value?_expelUntil, consistent.value?_replace listed]
      apply and_congr_right
      intro _
      by_cases same : k = key
      · simp [same, overwrite, eq_comm]
      · simp [same]
    · -- Room is made before the value comes, and none of it at the cost of its own key.
      rename_i unlisted
      obtain ⟨i, dial, placed, added⟩ := consistent.add_eq key (Nat.not_lt.mp fitting)
      rw [added, (consistent.makeRoom _).value?_insert placed]
      by_cases same : k = key
      · subst same
        have absent : c.value? k = none := by simp [value?, find?, unlisted]
        have others : ∀ out ∈ (c.makeRoom (hasRoomFor value.size)).1, out.key ≠ k :=
          fun out member => consistent.ne_of_mem_expelUntil absent member
        simpa [eq_comm] using fun _ => others
      · rw [if_neg same, makeRoom, consistent.value?_expelUntil]
        simp [same]

/-- After a value was offered, its key holds that value or none, and any other key what
    it held before or none. -/
theorem Coherent.value?_set {c : Cache} (h : c.Coherent) {key k : String} {value v : ByteArray}
    (cached : (c.set key value).cache.value? k = some v) :
    (k = key ∧ v = value) ∨ (k ≠ key ∧ c.value? k = some v) :=
  (h.value?_set_iff.mp cached).2.imp_left And.right

end BlobDepot.Cache
