import BlobDepot.Cache.Run
import BlobDepot.Proofs.Cache.Consistent
import BlobDepot.Proofs.Cache.Selection

/-! # Coherence of a cache

A cache is coherent when its parts agree and its bytes in use are within their limit.
Every call keeps it coherent (`Coherent.step`), and so does every run of a new cache.

The byte limit may be exceeded while an entry is overwritten.  That it holds again
afterwards rests on `makeRoom_fits`: entries leave until the condition of the loop
holds, since the hand finds an entry as long as there is one, there are as many
rounds as slots, and a cache without entries satisfies the condition.
-/

namespace BlobDepot.Cache

/-- The parts of a cache agree and its bytes are within their limit. -/
structure Coherent (c : Cache) : Prop extends c.Consistent where
  used_le : c.used ≤ c.byteLimit

/-- Two caches have the same limits. -/
def SameLimits (c c' : Cache) : Prop :=
  c'.capacity = c.capacity ∧ c'.byteLimit = c.byteLimit

theorem SameLimits.trans {c c' c'' : Cache} (h : c.SameLimits c') (h' : c'.SameLimits c'') :
    c.SameLimits c'' :=
  ⟨h'.1.trans h.1, h'.2.trans h.2⟩

/-! ## Expelling one entry -/

theorem expel_eq_some {c c' : Cache} {out : Eviction} (left : c.expel = some (out, c')) :
    ∃ e dial, c.dial.Expels e dial ∧ out = ⟨e.key, e.size, c.used - e.size⟩ ∧
      c' = { c with
        index := c.index.erase e.key
        dial
        used := c.used - e.size
        tally := c.tally.eviction } := by
  rw [expel] at left
  obtain ⟨⟨e, dial⟩, found, made⟩ := Option.map_eq_some_iff.mp left
  simp only [Prod.mk.injEq] at made
  exact ⟨e, dial, Dial.expels_of_expel found, made.1.symm, made.2.symm⟩

theorem Consistent.expel {c c' : Cache} {out : Eviction} (h : c.Consistent)
    (left : c.expel = some (out, c')) : c'.Consistent := by
  obtain ⟨e, dial, expels, rfl, rfl⟩ := expel_eq_some left
  obtain ⟨i, held, slots⟩ := expels.content?
  exact h.remove (expels.inOrder h.inOrder) expels.size_slots held slots _

theorem sameLimits_expel {c c' : Cache} {out : Eviction} (left : c.expel = some (out, c')) :
    c.SameLimits c' := by
  obtain ⟨e, dial, _, rfl, rfl⟩ := expel_eq_some left
  exact ⟨rfl, rfl⟩

theorem Consistent.size_expel {c c' : Cache} {out : Eviction} (h : c.Consistent)
    (left : c.expel = some (out, c')) : c'.size + 1 = c.size := by
  obtain ⟨e, dial, expels, rfl, rfl⟩ := expel_eq_some left
  obtain ⟨i, held, _⟩ := expels.content?
  obtain ⟨e', held', rfl⟩ := Dial.content?_eq_some_iff.mp held
  have positive := h.size_pos held'
  have present : c.index.contains e'.unmark.key = true := by
    rw [Std.ExtTreeMap.contains_eq_isSome_getElem?, Entry.key_unmark, h.listed held']
    rfl
  simp only [size, Std.ExtTreeMap.size_erase, present, if_true] at positive ⊢
  omega

theorem Consistent.exists_expel {c : Cache} (h : c.Consistent) (nonempty : c.size ≠ 0) :
    ∃ out c', c.expel = some (out, c') := by
  rw [h.size_eq] at nonempty
  obtain ⟨i, e, held⟩ := Dial.exists_occupant?_of_weigh nonempty
  obtain ⟨_, _, _, found, -⟩ := Dial.expel_of_occupied h.inOrder held
  exact ⟨_, _, by rw [Cache.expel, found, Option.map_some]⟩

/-! ## Making room -/

theorem expelUntil_stop {fits : Cache → Bool} {c : Cache} (stop : fits c = true ∨ c.expel = none)
    (rounds : Nat) : expelUntil fits rounds c = ([], c) := by
  cases rounds with
  | zero => rfl
  | succ rounds =>
    rw [expelUntil]
    obtain done | stuck := stop
    · rw [if_pos done]
    · rw [stuck, ite_self]

theorem expelUntil_next {fits : Cache → Bool} {c rest : Cache} {out : Eviction}
    (full : fits c = false) (left : c.expel = some (out, rest)) (rounds : Nat) :
    expelUntil fits (rounds + 1) c =
      (out :: (expelUntil fits rounds rest).1, (expelUntil fits rounds rest).2) := by
  rw [expelUntil, full, left]
  rfl

theorem stop_or_expel (fits : Cache → Bool) (c : Cache) :
    (fits c = true ∨ c.expel = none) ∨ (fits c = false ∧ ∃ out rest, c.expel = some (out, rest)) := by
  cases fits c with
  | true => exact .inl (.inl rfl)
  | false =>
    cases left : c.expel with
    | none => exact .inl (.inr rfl)
    | some pair => exact .inr ⟨rfl, pair.1, pair.2, rfl⟩

/-- What every expulsion keeps, making room keeps. -/
theorem expelUntil_keeps {P : Cache → Prop} {fits : Cache → Bool}
    (keeps : ∀ {c c' : Cache} {out : Eviction}, P c → c.expel = some (out, c') → P c')
    (rounds : Nat) {c : Cache} (h : P c) : P (expelUntil fits rounds c).2 := by
  induction rounds generalizing c with
  | zero => exact h
  | succ rounds ih =>
    obtain stop | ⟨full, out, rest, left⟩ := stop_or_expel fits c
    · rw [expelUntil_stop stop]
      exact h
    · rw [expelUntil_next full left]
      exact ih (keeps h left)

theorem Consistent.makeRoom {c : Cache} (h : c.Consistent) (fits : Cache → Bool) :
    (c.makeRoom fits).2.Consistent :=
  expelUntil_keeps (fun h left => h.expel left) _ h

theorem sameLimits_makeRoom (c : Cache) (fits : Cache → Bool) : c.SameLimits (c.makeRoom fits).2 :=
  expelUntil_keeps (P := c.SameLimits) (fun h left => h.trans (sameLimits_expel left)) _ ⟨rfl, rfl⟩

theorem unlisted_makeRoom {c : Cache} {key : String} (unlisted : c.index[key]? = none)
    (fits : Cache → Bool) : (c.makeRoom fits).2.index[key]? = none := by
  refine expelUntil_keeps (P := fun c => c.index[key]? = none) ?_ _ unlisted
  intro c c' out absent left
  obtain ⟨e, dial, _, rfl, rfl⟩ := expel_eq_some left
  simp [Std.ExtTreeMap.getElem?_erase, absent]

/-- Enough rounds lead to a cache that fits, if one without entries does. -/
theorem Consistent.expelUntil_fits {fits : Cache → Bool} {rounds : Nat} {c : Cache} (h : c.Consistent)
    (enough : c.size ≤ rounds)
    (bare : ∀ {c'}, c'.Consistent → c.SameLimits c' → c'.size = 0 → fits c' = true) :
    fits (expelUntil fits rounds c).2 = true := by
  induction rounds generalizing c with
  | zero =>
    -- As many entries as rounds: without rounds the cache is bare.
    have none : c.size = 0 := by omega
    exact bare h ⟨rfl, rfl⟩ none
  | succ rounds ih =>
    obtain stop | ⟨full, out, rest, left⟩ := stop_or_expel fits c
    · rw [expelUntil_stop stop]
      obtain done | stuck := stop
      · exact done
      · -- The hand only fails in a cache without entries.
        apply bare h ⟨rfl, rfl⟩
        by_contra nonempty
        obtain ⟨out, rest, left⟩ := h.exists_expel nonempty
        rw [stuck] at left
        cases left
    · rw [expelUntil_next full left]
      have smaller := h.size_expel left
      exact ih (h.expel left) (by omega) fun h' limits => bare h' ((sameLimits_expel left).trans limits)

theorem Consistent.makeRoom_fits {c : Cache} (h : c.Consistent) {fits : Cache → Bool}
    (bare : ∀ {c'}, c'.Consistent → c.SameLimits c' → c'.size = 0 → fits c' = true) :
    fits (c.makeRoom fits).2 = true := by
  refine h.expelUntil_fits ?_ bare
  rw [Dial.capacity, h.slots_size]
  exact h.size_le_capacity

theorem Consistent.fits_withinBytes {c : Cache} (h : c.Consistent) :
    withinBytes (c.makeRoom withinBytes).2 = true :=
  h.makeRoom_fits fun h' _ none => by simp [withinBytes, h'.used_of_size_zero none]

theorem Consistent.withinBytes_makeRoom {c : Cache} (h : c.Consistent) :
    (c.makeRoom withinBytes).2.used ≤ (c.makeRoom withinBytes).2.byteLimit := by
  simpa [withinBytes] using h.fits_withinBytes

theorem Consistent.fits_hasRoomFor {c : Cache} (h : c.Consistent) {size : Nat}
    (small : size ≤ c.byteLimit) : hasRoomFor size (c.makeRoom (hasRoomFor size)).2 = true := by
  refine h.makeRoom_fits fun {c'} h' limits none => ?_
  -- The hand points to a slot, so there is one.
  have positive := h'.inOrder.hand_lt
  rw [h'.slots_size] at positive
  have bytes := h'.used_of_size_zero none
  simp only [hasRoomFor, none, bytes, Nat.zero_add, limits.2, Bool.and_eq_true, decide_eq_true_eq]
  exact ⟨by omega, small⟩

theorem Consistent.hasRoomFor_makeRoom {c : Cache} (h : c.Consistent) {size : Nat}
    (small : size ≤ c.byteLimit) :
    let roomy := (c.makeRoom (hasRoomFor size)).2
    roomy.size < roomy.capacity ∧ roomy.used + size ≤ roomy.byteLimit := by
  simpa [hasRoomFor] using h.fits_hasRoomFor small

/-! ## The operations -/

theorem Consistent.forget_of_listed {c : Cache} (h : c.Consistent) {key : String} {i : Nat}
    (listed : c.index[key]? = some i) :
    ∃ e dial, c.dial.vacate i = some (e, dial) ∧ e.key = key ∧ c.forget key = (true, { c with
      index := c.index.erase key
      dial
      used := c.used - e.size
      tally := c.tally.eviction }) := by
  obtain ⟨e, held, hkey⟩ := h.held_of_listed listed
  obtain ⟨dial, taken⟩ : ∃ dial, c.dial.vacate i = some (e, dial) := by
    simp [Dial.vacate, held]
  exact ⟨e, dial, taken, hkey, by simp [forget, listed, taken]⟩

theorem forget_of_unlisted {c : Cache} {key : String} (unlisted : c.index[key]? = none) :
    c.forget key = (false, c) := by
  simp [forget, unlisted]

theorem Consistent.forget {c : Cache} (h : c.Consistent) (key : String) :
    (c.forget key).2.Consistent := by
  cases listed : c.index[key]? with
  | none =>
    rw [forget_of_unlisted listed]
    exact h
  | some i =>
    obtain ⟨e, dial, taken, rfl, forgotten⟩ := h.forget_of_listed listed
    obtain ⟨ordered, sizes, _, held, slots⟩ := h.inOrder.vacate taken
    rw [forgotten]
    -- A bit that was set is no obstacle: the content shows the entry without it.
    refine h.remove (e := e.unmark) ordered sizes (by rw [Dial.content?, held, Option.map_some]) ?_ _
    intro j
    rw [Dial.content?, slots]
    split
    · rfl
    · rfl

theorem sameLimits_forget (c : Cache) (key : String) : c.SameLimits (c.forget key).2 := by
  rw [Cache.forget]
  split
  · exact ⟨rfl, rfl⟩
  · split <;> exact ⟨rfl, rfl⟩

theorem used_forget_le (c : Cache) (key : String) : (c.forget key).2.used ≤ c.used := by
  rw [Cache.forget]
  split
  · exact Nat.le_refl _
  · split
    · exact Nat.le_refl _
    · exact Nat.sub_le ..

theorem Consistent.replace {c : Cache} (h : c.Consistent) (i : Nat) (value : ByteArray) :
    (c.replace i value).Consistent := by
  rw [Cache.replace]
  split
  · exact h
  · rename_i old held
    exact h.modify held rfl rfl

theorem sameLimits_replace (c : Cache) (i : Nat) (value : ByteArray) :
    c.SameLimits (c.replace i value) := by
  rw [Cache.replace]
  split <;> exact ⟨rfl, rfl⟩

/-- A blob that is small enough is always added: room is made, so a slot is empty. -/
theorem Consistent.add_eq {c : Cache} (h : c.Consistent) (key : String) {value : ByteArray}
    (small : value.size ≤ c.byteLimit) :
    let roomy := (c.makeRoom (hasRoomFor value.size)).2
    ∃ i dial, roomy.dial.place (.fresh key value) = some (i, dial) ∧
      c.add key value = ⟨.stored, (c.makeRoom (hasRoomFor value.size)).1, { roomy with
        index := roomy.index.insert key i
        dial
        used := roomy.used + value.size }⟩ := by
  intro roomy
  have consistent := h.makeRoom (hasRoomFor value.size)
  have room := (h.hasRoomFor_makeRoom small).1
  rw [consistent.size_eq, ← consistent.slots_size] at room
  obtain ⟨i, dial, placed⟩ := consistent.inOrder.place_isSome room (.fresh key value)
  exact ⟨i, dial, placed, by simp only [add, placed, roomy]⟩

theorem Coherent.set {c : Cache} (h : c.Coherent) (key : String) (value : ByteArray) :
    (c.set key value).cache.Coherent := by
  have consistent := h.toConsistent
  rw [Cache.set]
  split
  · -- The blob is too large: its older copy leaves.
    refine ⟨(consistent.forget key).tallied _, ?_⟩
    have limits := sameLimits_forget c key
    have bytes := used_forget_le c key
    have bound := h.used_le
    simp only [reject]
    rw [limits.2]
    omega
  · rename_i fitting
    have small : value.size ≤ c.byteLimit := Nat.not_lt.mp fitting
    split
    · -- The key is cached: the byte limit is restored after its value is replaced.
      rename_i i listed
      have replaced := consistent.replace i value
      exact ⟨replaced.makeRoom _, replaced.withinBytes_makeRoom⟩
    · -- The key is new: there is room for it before it comes.
      rename_i unlisted
      obtain ⟨i, dial, placed, added⟩ := consistent.add_eq key small
      rw [added]
      refine ⟨(consistent.makeRoom _).insert (unlisted_makeRoom unlisted _) placed, ?_⟩
      exact (consistent.hasRoomFor_makeRoom small).2

theorem sameLimits_set {c : Cache} (h : c.Consistent) (key : String) (value : ByteArray) :
    c.SameLimits (c.set key value).cache := by
  rw [Cache.set]
  split
  · exact sameLimits_forget c key
  · rename_i fitting
    split
    · rename_i i _
      exact (sameLimits_replace c i value).trans (sameLimits_makeRoom _ _)
    · obtain ⟨i, dial, _, added⟩ := h.add_eq key (Nat.not_lt.mp fitting)
      rw [added]
      exact sameLimits_makeRoom c _

theorem Coherent.get {c : Cache} (h : c.Coherent) (key : String) : (c.get key).2.Coherent := by
  have consistent := h.toConsistent
  rw [Cache.get]
  split
  · -- Marking an entry is a change that keeps its size.
    rename_i i e found
    obtain ⟨held, _⟩ := consistent.find?_eq_some_iff.mp found
    have marked := (consistent.modify held (f := Entry.mark) rfl (consistent.size_value i e held)).tallied
      c.tally.hit
    rw [Entry.size_mark, Nat.sub_add_cancel (consistent.size_le_used held)] at marked
    exact ⟨marked, h.used_le⟩
  · exact ⟨consistent.tallied _, h.used_le⟩

theorem sameLimits_get (c : Cache) (key : String) : c.SameLimits (c.get key).2 := by
  rw [Cache.get]
  split <;> exact ⟨rfl, rfl⟩

/-! ## Runs -/

/-- One call keeps a cache coherent and its limits as they are. -/
theorem Coherent.step {c : Cache} (h : c.Coherent) (call : Call) :
    (c.step call).2.Coherent ∧ c.SameLimits (c.step call).2 := by
  cases call with
  | get key => exact ⟨h.get key, sameLimits_get c key⟩
  | set key value => exact ⟨h.set key value, sameLimits_set h.toConsistent key value⟩
  | forget key =>
    have limits := sameLimits_forget c key
    refine ⟨⟨h.toConsistent.forget key, ?_⟩, limits⟩
    exact limits.2 ▸ (used_forget_le c key).trans h.used_le
  | contains _ | isEmpty | snapshot => exact ⟨h, rfl, rfl⟩

theorem Coherent.run {c : Cache} (h : c.Coherent) (calls : List Call) :
    (c.run calls).Coherent ∧ c.SameLimits (c.run calls) := by
  induction calls generalizing c with
  | nil => exact ⟨h, rfl, rfl⟩
  | cons call calls ih =>
    obtain ⟨next, limits⟩ := h.step call
    obtain ⟨last, limits'⟩ := ih next
    exact ⟨last, limits.trans limits'⟩

theorem coherent_empty {capacity : Nat} (positive : 0 < capacity) (byteLimit : Nat) :
    (empty capacity byteLimit).Coherent :=
  ⟨Consistent.consistent_empty positive byteLimit, Nat.zero_le _⟩

theorem create_eq_ok_iff {capacity byteLimit : Nat} {c : Cache} :
    create capacity byteLimit = .ok c ↔ 0 < capacity ∧ c = empty capacity byteLimit := by
  rw [create]
  split
  · simp [‹capacity = 0›]
  · simp [Nat.pos_of_ne_zero ‹¬capacity = 0›, eq_comm]

theorem Reachable.coherent {c : Cache} (h : c.Reachable) : c.Coherent := by
  obtain ⟨capacity, byteLimit, calls, positive, rfl⟩ := h
  exact ((coherent_empty positive byteLimit).run calls).1

/-- A cache with at least one slot is made, and after any sequence of calls its parts
    agree and both of its limits hold. -/
theorem created_run_coherent {capacity : Nat} (positive : 0 < capacity) (byteLimit : Nat)
    (calls : List Call) :
    ∃ c, create capacity byteLimit = .ok c ∧ (c.run calls).Coherent ∧
      (c.run calls).dial.slots.size = capacity ∧
      (c.run calls).size ≤ capacity ∧ (c.run calls).used ≤ byteLimit := by
  obtain ⟨coherent, limits⟩ := (coherent_empty positive byteLimit).run calls
  refine ⟨empty capacity byteLimit, ?_, coherent, ?_, ?_, ?_⟩
  · rw [create, if_neg (by omega)]
  · exact coherent.slots_size.trans limits.1
  · exact coherent.size_le_capacity.trans_eq limits.1
  · exact coherent.used_le.trans_eq limits.2

/-- A run in which an entry grows beyond the byte limit until another one has left. -/
theorem created_run_coherent_of_growth :
    let calls := [.set "a" ⟨#[1, 1]⟩, .set "b" ⟨#[2]⟩, .set "b" ⟨#[3, 3, 3, 3]⟩]
    ∃ c, create 2 5 = .ok c ∧ (c.run calls).Coherent ∧ (c.run calls).dial.slots.size = 2 ∧
      (c.run calls).size ≤ 2 ∧ (c.run calls).used ≤ 5 :=
  created_run_coherent (by decide) 5 _

end BlobDepot.Cache
