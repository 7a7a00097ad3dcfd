import BlobDepot.Proofs.Cache.Balance

/-! # A cache without precautions

The operations of a cache look out for what should not happen: a listed key whose slot is empty,
a newcomer for whom no slot is empty, a limit that is exceeded although nobody is left to take
out.  If it did happen they would go on regardless, and the limit or a key would be lost.  They
also end their loops after so many rounds, and nothing stops their numbers from growing.

Here they are written once more without any of this.  A loop has to end by its condition before
its rounds are used up, a slot that is used has to be on the dial, and an entry or an empty slot
that is expected has to be there; otherwise there is no result.  How numbers are added and
subtracted is left open as a `Reckoning`, which may have no result either.

As long as the reckoning is exact for numbers up to twice the byte limit and up to the number of
slots, a coherent cache leads to the same answers and to the same cache without precautions
(`Reckoning.step_eq`).  So none of them is ever needed (`Reachable.unfailing`).
-/

namespace BlobDepot.Cache

/-- A way to add and to subtract.  There may be no result. -/
structure Reckoning where
  plus : Nat → Nat → Option Nat
  minus : Nat → Nat → Option Nat

namespace Reckoning

/-- Below a bound the results are those of numbers. -/
structure ExactBelow (r : Reckoning) (bound : Nat) : Prop where
  plus : ∀ {a b}, a + b < bound → r.plus a b = some (a + b)
  minus : ∀ {a b}, b ≤ a → a < bound → r.minus a b = some (a - b)

/-- Numbers of any size.  Nothing is subtracted from less than itself. -/
def unbounded : Reckoning where
  plus a b := some (a + b)
  minus a b := if b ≤ a then some (a - b) else none

theorem exactBelow_unbounded (bound : Nat) : unbounded.ExactBelow bound where
  plus _ := rfl
  minus le _ := if_pos le

variable (r : Reckoning)

/-! ## The operations -/

/-- One move of the hand. -/
def move (d : Dial) : Option (Option Entry × Dial) := do
  let slot ← d.slots[d.hand]?
  let next ← r.plus d.hand 1
  let turned := { d with hand := next % d.slots.size }
  match slot with
  | none => some (none, turned)
  | some e =>
    if e.referenced then some (none, turned.modify d.hand Entry.unmark)
    else
      let (victim, rest) ← turned.vacate d.hand
      some (some victim, rest)

/-- Moves of the hand until it takes an entry out.  It has to do so within so many moves. -/
def scan : Nat → Dial → Option (Entry × Dial)
  | 0, _ => none
  | moves + 1, d => do
    match ← r.move d with
    | (some victim, rest) => some (victim, rest)
    | (none, rest) => scan moves rest

/-- The hand takes an entry out.  There has to be one. -/
def expel (c : Cache) : Option (Eviction × Cache) := do
  if (← r.minus c.dial.slots.size c.dial.free.length) = 0 then none
  else
    let (victim, dial) ← r.scan (2 * c.dial.slots.size) c.dial
    let used ← r.minus c.used victim.size
    some (⟨victim.key, victim.size, used⟩, { c with
      index := c.index.erase victim.key
      dial
      used
      tally := c.tally.eviction })

/-- Entries are taken out until the cache `fits`.  It has to do so within so many rounds. -/
def expelUntil (fits : Cache → Option Bool) : Nat → Cache → Option (List Eviction × Cache)
  | 0, c => do if ← fits c then some ([], c) else none
  | rounds + 1, c => do
    if ← fits c then some ([], c)
    else
      let (eviction, rest) ← r.expel c
      let (more, last) ← expelUntil fits rounds rest
      some (eviction :: more, last)

def makeRoom (fits : Cache → Option Bool) (c : Cache) : Option (List Eviction × Cache) :=
  r.expelUntil fits c.dial.capacity c

/-- The bytes are only added up if a slot is empty. -/
def hasRoomFor (size : Nat) (c : Cache) : Option Bool :=
  if c.capacity ≤ c.size then some false
  else do
    let sum ← r.plus c.used size
    some (sum ≤ c.byteLimit)

def get (c : Cache) (key : String) : Option (Option ByteArray × Cache) :=
  match c.index[key]? with
  | none => some (none, { c with tally := c.tally.miss })
  | some i => do
    let e ← c.dial.occupant? i
    some (some e.value, { c with dial := c.dial.modify i Entry.mark, tally := c.tally.hit })

def forget (c : Cache) (key : String) : Option (Bool × Cache) :=
  match c.index[key]? with
  | none => some (false, c)
  | some i => do
    let (stale, dial) ← c.dial.vacate i
    let used ← r.minus c.used stale.size
    some (true, { c with
      index := c.index.erase key
      dial
      used
      tally := c.tally.eviction })

def reject (c : Cache) (key : String) : Option Placement := do
  let (_, dropped) ← r.forget c key
  some ⟨.rejected, [], { dropped with tally := dropped.tally.rejection }⟩

def overwrite (c : Cache) (i : Nat) (value : ByteArray) : Option Placement := do
  let old ← c.dial.occupant? i
  let others ← r.minus c.used old.size
  let used ← r.plus others value.size
  let (evicted, cache) ← r.makeRoom (fun c => some c.withinBytes)
    { c with dial := c.dial.modify i (·.renew value), used }
  some ⟨.stored, evicted, cache⟩

def add (c : Cache) (key : String) (value : ByteArray) : Option Placement := do
  let (evicted, roomy) ← r.makeRoom (r.hasRoomFor value.size) c
  let (i, dial) ← roomy.dial.place (.fresh key value)
  let _ ← roomy.dial.slots[i]?
  let used ← r.plus roomy.used value.size
  some ⟨.stored, evicted, { roomy with index := roomy.index.insert key i, dial, used }⟩

def set (c : Cache) (key : String) (value : ByteArray) : Option Placement :=
  if c.byteLimit < value.size then r.reject c key
  else
    match c.index[key]? with
    | some i => r.overwrite c i value
    | none => r.add c key value

/-- One call: its answer and the cache after it. -/
def step (c : Cache) : Call → Option (Answer × Cache)
  | .get key => do
    let (found, next) ← get c key
    some (.blob found, next)
  | .set key value => do
    let placement ← r.set c key value
    some (.placed placement.verdict placement.evicted, placement.cache)
  | .forget key => do
    let (dropped, next) ← r.forget c key
    some (.flag dropped, next)
  | .contains key => some (.flag (c.contains key), c)
  | .isEmpty => some (.flag c.isEmpty, c)
  | .snapshot => some (.told c.snapshot, c)

variable {r} {bound : Nat} {d d' : Dial} {e : Entry} {c c' : Cache} {key : String} {value : ByteArray}

/-! ## The hand -/

theorem move_eq (exact : r.ExactBelow bound) (ordered : d.InOrder) (slots : d.slots.size < bound) :
    r.move d = some d.tick := by
  have inside := ordered.hand_lt
  have slot : d.slots[d.hand]? = some d.slots[d.hand] := Array.getElem?_eq_getElem inside
  have occupant : d.occupant? d.hand = d.slots[d.hand] := by
    rw [Dial.occupant?, slot, Option.join_some]
  have next : r.plus d.hand 1 = some (d.hand + 1) := exact.plus (by omega)
  rw [move, slot, next, Dial.tick_eq, occupant]
  simp only [Option.bind_eq_bind, Option.bind_some]
  cases held : d.slots[d.hand] with
  | none => rfl
  | some e =>
    by_cases marked : e.referenced
    · simp only [marked, if_true]
      rfl
    · have taken := Dial.vacate_turned ⟨occupant.trans held, Bool.eq_false_iff.mpr marked⟩
      rw [Dial.turned] at taken
      simp only [marked, Bool.false_eq_true, if_false, taken, Option.bind_some]
      rfl

theorem scan_eq (exact : r.ExactBelow bound) (ordered : d.InOrder) (slots : d.slots.size < bound)
    {moves : Nat} (swept : d.sweep moves = (some e, d')) : r.scan moves d = some (e, d') := by
  induction moves generalizing d with
  | zero => cases swept
  | succ moves ih =>
    rw [scan, move_eq exact ordered slots]
    obtain ⟨x, ripe⟩ | unripe := d.ripe_or_unripe
    · rw [Dial.sweep_of_ripe ripe] at swept
      rw [Dial.tick_of_ripe ripe]
      cases swept
      rfl
    · rw [Dial.sweep_of_unripe unripe] at swept
      rw [Dial.tick_of_unripe unripe]
      exact ih ordered.pass (by rwa [Dial.size_slots_pass]) swept

/-! ## Making room -/

theorem expel_eq (exact : r.ExactBelow bound) (h : c.Consistent) (slots : c.capacity < bound)
    (bytes : c.used < bound) {out : Eviction} (left : c.expel = some (out, c')) :
    r.expel c = some (out, c') := by
  obtain ⟨⟨e, dial⟩, found, made⟩ := Option.map_eq_some_iff.mp left
  cases made
  obtain ⟨i, content, -⟩ := (Dial.expels_of_expel found).content?
  obtain ⟨e', held, rfl⟩ := Dial.content?_eq_some_iff.mp content
  have sizes := h.slots_size
  have total := h.inOrder.count_add_free
  have positive := h.size_pos held
  rw [h.size_eq] at positive
  -- There is an entry, so the slots are more than those on the stack.
  have entries : r.minus c.dial.slots.size c.dial.free.length =
      some (c.dial.slots.size - c.dial.free.length) := exact.minus (by omega) (by omega)
  have nonempty : c.dial.slots.size - c.dial.free.length ≠ 0 := by omega
  have others : r.minus c.used e'.size = some (c.used - e'.size) :=
    exact.minus (h.size_le_used held) bytes
  rw [expel, entries, scan_eq exact h.inOrder (by omega) (Dial.sweep_of_expel found)]
  simp only [Option.bind_eq_bind, Option.bind_some, nonempty, if_false, Entry.size_unmark, others]

theorem used_expel_le {out : Eviction} (left : c.expel = some (out, c')) : c'.used ≤ c.used := by
  obtain ⟨e, dial, -, rfl, rfl⟩ := expel_eq_some left
  exact Nat.sub_le ..

/-- A loop that leads to a cache that fits always finds an entry to take out, and its rounds are
    enough. -/
theorem expelUntil_eq (exact : r.ExactBelow bound) {fits : Cache → Bool}
    {fits' : Cache → Option Bool} {rounds : Nat} (h : c.Consistent) (slots : c.capacity < bound)
    (bytes : c.used < bound)
    (judged : ∀ {c'}, c.SameLimits c' → c'.used ≤ c.used → fits' c' = some (fits c'))
    (done : fits (Cache.expelUntil fits rounds c).2 = true) :
    r.expelUntil fits' rounds c = some (Cache.expelUntil fits rounds c) := by
  have looked : fits' c = some (fits c) := judged ⟨rfl, rfl⟩ (Nat.le_refl _)
  -- The bytes in use only get less on the way, so every cache that the loop sees can be judged.
  induction rounds generalizing c with
  | zero =>
    rw [Cache.expelUntil] at done ⊢
    rw [expelUntil, looked, done]
    rfl
  | succ rounds ih =>
    obtain stop | ⟨full, out, rest, left⟩ := stop_or_expel fits c
    · rw [expelUntil_stop stop] at done ⊢
      rw [expelUntil, looked, done]
      rfl
    · rw [expelUntil_next full left] at done ⊢
      have limits := sameLimits_expel left
      have fewer := used_expel_le left
      have judged' : ∀ {c'}, rest.SameLimits c' → c'.used ≤ rest.used → fits' c' = some (fits c') :=
        fun limits' le => judged (limits.trans limits') (le.trans fewer)
      have later := ih (h.expel left) (limits.1 ▸ slots) (by omega) judged' done
        (judged' ⟨rfl, rfl⟩ (Nat.le_refl _))
      rw [expelUntil, looked, full, expel_eq exact h slots bytes left]
      simp only [Option.bind_eq_bind, Option.bind_some, Bool.false_eq_true, if_false, later]

theorem makeRoom_eq (exact : r.ExactBelow bound) {fits : Cache → Bool} (fits' : Cache → Option Bool)
    (h : c.Consistent) (slots : c.capacity < bound) (bytes : c.used < bound)
    (judged : ∀ {c'}, c.SameLimits c' → c'.used ≤ c.used → fits' c' = some (fits c'))
    (done : fits (c.makeRoom fits).2 = true) : r.makeRoom fits' c = some (c.makeRoom fits) :=
  expelUntil_eq exact h slots bytes judged done

theorem hasRoomFor_eq (exact : r.ExactBelow bound) {size : Nat} (bytes : c.used + size < bound) :
    r.hasRoomFor size c = some (c.hasRoomFor size) := by
  rw [hasRoomFor, Cache.hasRoomFor]
  by_cases full : c.capacity ≤ c.size
  · simp [full]
  · simp [full, exact.plus bytes, Nat.not_le.mp full]

/-! ## The calls -/

theorem get_eq (h : c.Consistent) (key : String) : get c key = some (c.get key) := by
  rw [get, Cache.get, find?]
  cases listed : c.index[key]? with
  | none => rfl
  | some i =>
    obtain ⟨e, held, -⟩ := h.held_of_listed listed
    simp [held]

theorem forget_eq (exact : r.ExactBelow bound) (h : c.Consistent) (bytes : c.used < bound)
    (key : String) : r.forget c key = some (c.forget key) := by
  rw [forget]
  cases listed : c.index[key]? with
  | none => rw [forget_of_unlisted listed]
  | some i =>
    obtain ⟨e, dial, taken, -, forgotten⟩ := h.forget_of_listed listed
    obtain ⟨-, -, -, held, -⟩ := h.inOrder.vacate taken
    have others := exact.minus (h.size_le_used held) bytes
    simp only [taken, others, Option.bind_eq_bind, Option.bind_some, forgotten]

theorem reject_eq (exact : r.ExactBelow bound) (h : c.Consistent) (bytes : c.used < bound)
    (key : String) : r.reject c key = some (c.reject key) := by
  rw [reject, forget_eq exact h bytes]
  rfl

theorem overwrite_eq (exact : r.ExactBelow bound) (h : c.Consistent) (slots : c.capacity < bound)
    (bytes : c.used + value.size < bound) {i : Nat} (listed : c.index[key]? = some i) :
    r.overwrite c i value = some (c.overwrite i value) := by
  obtain ⟨e, held, -⟩ := h.held_of_listed listed
  have old := h.size_le_used held
  have replaced : c.replace i value = { c with
      dial := c.dial.modify i (·.renew value)
      used := c.used - e.size + value.size } := by rw [Cache.replace, held]
  have limits := sameLimits_replace c i value
  -- The sum may exceed the byte limit here, but not twice the limit.
  have sum : (c.replace i value).used < bound := by
    rw [replaced]
    exact Nat.lt_of_le_of_lt (Nat.add_le_add_right (Nat.sub_le ..) _) bytes
  have made := makeRoom_eq exact (fun c => some c.withinBytes) (h.replace i value)
    (limits.1 ▸ slots) sum (fun _ _ => rfl) (h.replace i value).fits_withinBytes
  have others : r.minus c.used e.size = some (c.used - e.size) := exact.minus old (by omega)
  have used : r.plus (c.used - e.size) value.size = some (c.used - e.size + value.size) :=
    exact.plus (by omega)
  rw [replaced] at made
  rw [overwrite, held, Cache.overwrite, replaced]
  simp only [Option.bind_eq_bind, Option.bind_some, others, used, made]

theorem add_eq (exact : r.ExactBelow bound) (h : c.Consistent) (slots : c.capacity < bound)
    (small : value.size ≤ c.byteLimit) (bytes : c.used + value.size < bound) :
    r.add c key value = some (c.add key value) := by
  obtain ⟨i, dial, placed, added⟩ := h.add_eq key small
  obtain ⟨-, -, inside, -⟩ := (h.makeRoom _).inOrder.place placed
  have slot := Array.getElem?_eq_getElem inside
  have made := makeRoom_eq exact (r.hasRoomFor value.size) h slots (by omega)
    (fun _ le => hasRoomFor_eq exact (by omega)) (h.fits_hasRoomFor small)
  have fewer : (c.makeRoom (Cache.hasRoomFor value.size)).2.used ≤ c.used :=
    expelUntil_keeps (P := fun c' => c'.used ≤ c.used) (fun le left => (used_expel_le left).trans le) _
      (Nat.le_refl _)
  have used : r.plus (c.makeRoom (Cache.hasRoomFor value.size)).2.used value.size =
      some ((c.makeRoom (Cache.hasRoomFor value.size)).2.used + value.size) := exact.plus (by omega)
  rw [add, made, added]
  simp only [Option.bind_eq_bind, Option.bind_some, placed, slot, used]

/-- Where the reckoning is exact, a coherent cache needs no precautions. -/
theorem step_eq (exact : r.ExactBelow bound) (h : c.Coherent) (slots : c.capacity < bound)
    (bytes : 2 * c.byteLimit < bound) (call : Call) : r.step c call = some (c.step call) := by
  have consistent := h.toConsistent
  have within := h.used_le
  have less : c.used < bound := by omega
  cases call with
  | get key => simp [step, get_eq consistent, Cache.step]
  | forget key => simp [step, forget_eq exact consistent less, Cache.step]
  | set key value =>
    have offered : r.set c key value = some (c.set key value) := by
      rw [set, Cache.set]
      by_cases large : c.byteLimit < value.size
      · rw [if_pos large, if_pos large, reject_eq exact consistent less]
      · rw [if_neg large, if_neg large]
        cases listed : c.index[key]? with
        | some i => exact overwrite_eq exact consistent slots (by omega) listed
        | none => exact add_eq exact consistent slots (by omega) (by omega)
    simp [step, offered, Cache.step]
  | contains key => rfl
  | isEmpty => rfl
  | snapshot => rfl

end Reckoning

/-! ## What does not happen -/

/-- What the precautions look out for does not happen when a key is looked up or forgotten, or
    a value is offered under it. -/
structure Unfailing (c : Cache) (key : String) (value : ByteArray) : Prop where
  /-- A value is refused for its size, and never since no slot is empty. -/
  rejected_iff : (c.set key value).verdict = .rejected ↔ c.byteLimit < value.size
  /-- A listed key leads to a slot of the dial, where its entry stands. -/
  found : ∀ i, c.index[key]? = some i →
    i < c.dial.slots.size ∧ ∃ e, c.find? key = some (i, e) ∧ e.key = key
  /-- A key that leaves the index gives its slot back. -/
  freed : ∀ i, c.index[key]? = some i →
    (c.forget key).1 = true ∧ (c.forget key).2.dial.free = i :: c.dial.free
  hand_inside : c.dial.hand < c.dial.slots.size
  free_inside : ∀ i ∈ c.dial.free, i < c.dial.slots.size
  /-- Room is made for a value that replaces another one. -/
  fits_renewed : ∀ i, c.index[key]? = some i →
    withinBytes ((c.replace i value).makeRoom withinBytes).2 = true
  /-- Room is made for a value that comes under a new key. -/
  fits_newcomer : c.index[key]? = none → value.size ≤ c.byteLimit →
    hasRoomFor value.size (c.makeRoom (hasRoomFor value.size)).2 = true
  /-- Without precautions, every call leads to the same answer and to the same cache. -/
  unguarded : ∀ call, Reckoning.unbounded.step c call = some (c.step call)

/-- Whatever calls a cache has received, none of its precautions is needed. -/
theorem Reachable.unfailing {c : Cache} (h : c.Reachable) (key : String) (value : ByteArray) :
    c.Unfailing key value := by
  have coherent := h.coherent
  have consistent := coherent.toConsistent
  have ordered := consistent.inOrder
  constructor
  · have refused := consistent.refuses_set key value
    rwa [refuses, decide_eq_decide] at refused
  · intro i listed
    obtain ⟨e, held, hkey⟩ := consistent.held_of_listed listed
    exact ⟨Dial.lt_of_occupant? held, e, consistent.find?_eq_some_iff.mpr ⟨held, hkey⟩, hkey⟩
  · intro i listed
    obtain ⟨e, dial, taken, -, forgotten⟩ := consistent.forget_of_listed listed
    obtain ⟨_, -, made⟩ := Option.map_eq_some_iff.mp taken
    cases made
    rw [forgotten]
    exact ⟨rfl, rfl⟩
  · exact ordered.hand_lt
  · intro i listed
    exact ((ordered.mem_free_iff i).mp listed).1
  · intro i _
    exact (consistent.replace i value).fits_withinBytes
  · intro _ small
    exact consistent.fits_hasRoomFor small
  · intro call
    exact Reckoning.step_eq (Reckoning.exactBelow_unbounded (c.capacity + 2 * c.byteLimit + 1)) coherent
      (by omega) (by omega) call

/-- A value grows beyond the byte limit, so that the other entry has to leave, although its bit
    is set. -/
theorem Reachable.unfailing_of_growth :
    let c := (empty 2 5).run [.set "a" ⟨#[1, 1]⟩, .set "b" ⟨#[2]⟩, .get "a"]
    let grown : ByteArray := ⟨#[3, 3, 3, 3]⟩
    c.Reachable ∧ c.Unfailing "b" grown ∧ (c.set "b" grown).evicted = [⟨"a", 2, 4⟩] :=
  have reachable := ⟨2, 5, _, by decide, rfl⟩
  ⟨reachable, Reachable.unfailing reachable "b" ⟨#[3, 3, 3, 3]⟩, by decide +kernel⟩

end BlobDepot.Cache
