import BlobDepot.Proofs.Cache.Balance

/-! # First in, first out

As long as nobody uses an entry, all bits are clear, and the hand takes out whatever it points
to.  The newcomer comes into the slot that was just emptied, right behind the hand, so it is the
last to which the hand comes.  The circuit of the dial is then the list of those that arrived
last, in the order of their arrival (`Dial.Filed`).

That holds from the first arrival on: the slots are filled in their order while the hand has not
moved (`Dial.Filed.place`), and once all of them are filled, the circuit is a queue of constant
length (`Dial.Filed.relieve`).  Bytes play no part if the values fit together.
-/

namespace BlobDepot.Cache

/-! ## Arrivals -/

/-- A value that is offered to a cache, with its key. -/
structure Arrival where
  key : String
  value : ByteArray
  deriving DecidableEq

/-- The entry of a value that nobody has used yet. -/
def Arrival.entry (a : Arrival) : Entry :=
  .fresh a.key a.value

def Call.arrival? : Call → Option Arrival
  | .set key value => some ⟨key, value⟩
  | _ => none

/-- The values that are offered during a sequence of calls, in order. -/
def arrivals (calls : List Call) : List Arrival :=
  calls.filterMap Call.arrival?

/-- The bytes of some values. -/
def cargo (arrived : List Arrival) : Nat :=
  (arrived.map fun a => a.value.size).sum

/-- The last of those that arrived, as many as there are slots. -/
def recent (capacity : Nat) (arrived : List Arrival) : List Arrival :=
  arrived.drop (arrived.length - capacity)

/-- Those that arrived before them. -/
def gone (capacity : Nat) (arrived : List Arrival) : List Arrival :=
  arrived.take (arrived.length - capacity)

/-- A call that uses no entry and forgets none. -/
def undisturbing : Cache × Call → Bool
  | (c, .get key) => (c.get key).1.isNone
  | (c, .forget key) => !(c.forget key).1
  | (_, .set _ _) | (_, .contains _) | (_, .isEmpty) | (_, .snapshot) => true

/-- All keys are different, and all values fit together into so many bytes. -/
structure Fit (byteLimit : Nat) (arrived : List Arrival) : Prop where
  distinct : (arrived.map Arrival.key).Nodup
  small : cargo arrived ≤ byteLimit

/-- The value is stored.  As long as there are empty slots nobody leaves for it, and then only the
    one that has been there for longest. -/
structure Turn (capacity : Nat) (arrived : List Arrival) (p : Placement) : Prop where
  stored : p.verdict = .stored
  room : arrived.length < capacity → p.evicted = []
  full : capacity ≤ arrived.length → ∃ oldest later, recent capacity arrived = oldest :: later ∧
    p.evicted.map Eviction.key = [oldest.key]

/-- Of those that arrive during the calls the last ones stay, and each of the others leaves in its
    turn. -/
structure FirstInFirstOut (capacity : Nat) (c : Cache) (calls : List Call) : Prop where
  cached : ∀ key value,
    (c.run calls).value? key = some value ↔ ⟨key, value⟩ ∈ recent capacity (arrivals calls)
  size : (c.run calls).size = min (arrivals calls).length capacity
  evicted : (c.evictions calls).map Eviction.key = (gone capacity (arrivals calls)).map Arrival.key
  turn : ∀ before key value after, calls = before ++ .set key value :: after →
    Turn capacity (arrivals before) ((c.run before).set key value)

variable {capacity : Nat} {arrived : List Arrival} {a oldest : Arrival} {later : List Arrival}

/-! ## One arrival more -/

theorem recent_of_room (room : arrived.length ≤ capacity) : recent capacity arrived = arrived := by
  rw [recent, Nat.sub_eq_zero_of_le room, List.drop_zero]

theorem length_recent (capacity : Nat) (arrived : List Arrival) :
    (recent capacity arrived).length = min arrived.length capacity := by
  rw [recent, List.length_drop]
  omega

theorem exists_recent (positive : 0 < capacity) (full : capacity ≤ arrived.length) :
    ∃ oldest later, recent capacity arrived = oldest :: later := by
  apply List.exists_cons_of_length_pos
  rw [length_recent]
  omega

/-- Without an empty slot, one arrival more is one too many. -/
theorem excess_snoc (full : capacity ≤ arrived.length) (a : Arrival) :
    (arrived ++ [a]).length - capacity = arrived.length - capacity + 1 := by
  rw [List.length_append, List.length_singleton]
  omega

theorem recent_snoc (full : capacity ≤ arrived.length) (first : recent capacity arrived = oldest :: later)
    (a : Arrival) : recent capacity (arrived ++ [a]) = later ++ [a] := by
  have positive : 0 < capacity := by
    have bound := length_recent capacity arrived
    rw [first, List.length_cons] at bound
    omega
  rw [recent] at first
  rw [recent, excess_snoc full, List.drop_append_of_le_length (by omega), ← List.tail_drop, first,
    List.tail_cons]

theorem gone_of_room (room : arrived.length ≤ capacity) : gone capacity arrived = [] := by
  rw [gone, Nat.sub_eq_zero_of_le room, List.take_zero]

theorem gone_snoc (full : capacity ≤ arrived.length) (first : recent capacity arrived = oldest :: later)
    (a : Arrival) : gone capacity (arrived ++ [a]) = gone capacity arrived ++ [oldest] := by
  have next : arrived[arrived.length - capacity]? = some oldest := by
    rw [← List.head?_drop, ← recent, first, List.head?_cons]
  have inside := (List.getElem?_eq_some_iff.mp next).1
  rw [gone, excess_snoc full, List.take_append_of_le_length inside, List.take_add_one, next, gone]
  rfl

theorem cargo_append (first second : List Arrival) : cargo (first ++ second) = cargo first + cargo second := by
  simp [cargo]

theorem cargo_recent_le (capacity : Nat) (arrived : List Arrival) :
    cargo (recent capacity arrived) ≤ cargo arrived := by
  have split : gone capacity arrived ++ recent capacity arrived = arrived := List.take_append_drop ..
  have total := cargo_append (gone capacity arrived) (recent capacity arrived)
  rw [split] at total
  omega

theorem Fit.front {byteLimit : Nat} {more : List Arrival} (fit : Fit byteLimit (arrived ++ more)) :
    Fit byteLimit arrived := by
  obtain ⟨distinct, small⟩ := fit
  rw [List.map_append] at distinct
  rw [cargo_append] at small
  exact ⟨distinct.of_append_left, by omega⟩

theorem Fit.last {byteLimit : Nat} (fit : Fit byteLimit (arrived ++ [a])) :
    a.key ∉ arrived.map Arrival.key ∧ cargo arrived + a.value.size ≤ byteLimit := by
  obtain ⟨distinct, small⟩ := fit
  rw [List.map_append, List.map_singleton] at distinct
  rw [cargo_append] at small
  exact ⟨fun old => distinct.disjoint old List.mem_cons_self, small⟩

/-! ## The dial -/

namespace Dial

variable {d : Dial} {e : Entry} {i : Nat}

/-- The circuit of a hand that has not moved ends with what comes into the first of the empty
    slots. -/
theorem circuit_put (inside : i < d.slots.size) (vacant : ∀ j, i ≤ j → d.occupant? j = none)
    (hand : d.hand = 0) (e : Entry) (free : List Nat) :
    circuit ⟨d.slots.setIfInBounds i (some e), free, d.hand⟩ = d.circuit ++ [e] := by
  obtain ⟨⟨slots⟩, stack, _⟩ := d
  subst hand
  simp only [List.size_toArray] at inside
  -- Behind the slot there are empty slots only, before and after it is filled.
  have bare : ∀ j, i ≤ j → (slots.drop j).reduceOption = [] := by
    intro j behind
    refine List.eq_nil_iff_forall_not_mem.mpr fun x member => ?_
    obtain ⟨k, slot⟩ := List.mem_iff_getElem?.mp (List.reduceOption_mem_iff.mp member)
    have none := vacant (j + k) (by omega)
    rw [List.getElem?_drop] at slot
    simp [occupant?, slot] at none
  have before : slots.reduceOption = (slots.take i).reduceOption := by
    conv_lhs => rw [← List.take_append_drop i slots]
    rw [List.reduceOption_append, bare i (Nat.le_refl i), List.append_nil]
  rw [circuit, circuit, List.setIfInBounds_toArray, List.rotate_zero, List.rotate_zero, before,
    List.set_eq_take_append_cons_drop, if_pos inside, List.reduceOption_append,
    List.reduceOption_cons_of_some, bare (i + 1) (by omega)]

theorem expel_of_ripe (ordered : d.InOrder) (ripe : d.Ripe e) : d.expel = some (e, d.takeOut) := by
  obtain ⟨more, moves⟩ : ∃ more, 2 * d.slots.size = more + 1 :=
    Nat.exists_eq_succ_of_ne_zero (by have := ordered.hand_lt; omega)
  rw [expel, moves, sweep_of_ripe ripe]

/-- The slot that the hand has just emptied is filled again. -/
theorem place_takeOut (d : Dial) (e : Entry) : d.takeOut.place e = some (d.hand,
    ⟨d.slots.setIfInBounds d.hand (some e), d.free, (d.hand + 1) % d.slots.size⟩) := by
  simp [place, takeOut, turned]

/-- The circuit of the dial are those that arrived last, in the order of their arrival and not used
    since.  As long as there is room, the slots are filled in their order and the hand rests. -/
structure Filed (arrived : List Arrival) (d : Dial) : Prop where
  circuit : d.circuit = (recent d.slots.size arrived).map Arrival.entry
  free : d.free = List.range' arrived.length (d.slots.size - arrived.length)
  hand : arrived.length < d.slots.size → d.hand = 0

theorem filed_empty (capacity : Nat) : (empty capacity).Filed [] where
  circuit := by
    have none : recent (empty capacity).slots.size [] = [] := List.drop_nil
    rw [none]
    refine List.eq_nil_iff_forall_not_mem.mpr fun e member => ?_
    obtain ⟨i, held⟩ := mem_circuit_iff.mp member
    rw [occupant?_empty] at held
    cases held
  free := by simp [empty, List.range_eq_range']
  hand _ := rfl

namespace Filed

/-- While there are empty slots, the newcomer comes into the first of them. -/
theorem place (filed : d.Filed arrived) (ordered : d.InOrder) (room : arrived.length < d.slots.size)
    (a : Arrival) : ∃ i dial, d.place a.entry = some (i, dial) ∧ dial.Filed (arrived ++ [a]) := by
  have stack : d.free =
      arrived.length :: List.range' (arrived.length + 1) (d.slots.size - (arrived.length + 1)) := by
    rw [filed.free, ← List.range'_succ, Nat.sub_add_eq, Nat.sub_add_cancel (by omega)]
  have vacant : ∀ j, arrived.length ≤ j → d.occupant? j = none := by
    intro j behind
    by_cases inside : j < d.slots.size
    · have listed : j ∈ d.free := by
        rw [filed.free, List.mem_range'_1]
        omega
      exact ((ordered.mem_free_iff j).mp listed).2
    · by_contra occupied
      obtain ⟨e, held⟩ := Option.ne_none_iff_exists'.mp occupied
      exact inside (lt_of_occupant? held)
  refine ⟨arrived.length, ⟨d.slots.setIfInBounds arrived.length (some a.entry),
    List.range' (arrived.length + 1) (d.slots.size - (arrived.length + 1)), d.hand⟩,
    by rw [Dial.place, stack], ?_, ?_, ?_⟩
  · have length : (arrived ++ [a]).length ≤ d.slots.size := by
      rw [List.length_append]
      exact room
    rw [circuit_put room vacant (filed.hand room), filed.circuit, recent_of_room (Nat.le_of_lt room),
      Array.size_setIfInBounds, recent_of_room length, List.map_append, List.map_singleton]
  · simp
  · exact fun _ => filed.hand room

/-- Once all slots are filled, the hand points to the one that arrived first, and the newcomer
    comes into its slot, as the last of the circuit. -/
theorem relieve (filed : d.Filed arrived) (ordered : d.InOrder) (full : d.slots.size ≤ arrived.length)
    (a : Arrival) : ∃ oldest later i dial, recent d.slots.size arrived = oldest :: later ∧
      d.Ripe oldest.entry ∧ d.takeOut.place a.entry = some (i, dial) ∧ dial.Filed (arrived ++ [a]) := by
  have filled : d.free = [] := by
    rw [filed.free, Nat.sub_eq_zero_of_le full, List.range'_zero]
  obtain ⟨oldest, later, first⟩ := exists_recent (Nat.zero_lt_of_lt ordered.hand_lt) full
  -- No slot is empty, so the hand points to an entry, and the circuit starts with it.
  obtain ⟨e, held⟩ : ∃ e, d.occupant? d.hand = some e := by
    refine Option.ne_none_iff_exists'.mp fun vacant => ?_
    have listed := (ordered.mem_free_iff d.hand).mpr ⟨ordered.hand_lt, vacant⟩
    rw [filled] at listed
    cases listed
  obtain ⟨others, start, turned⟩ := exists_circuit ordered.hand_lt
  rw [held, Option.toList_some, List.singleton_append, filed.circuit, first, List.map_cons] at start
  obtain ⟨rfl, rest⟩ := List.cons.inj start
  refine ⟨oldest, later, _, _, first, ⟨held, rfl⟩, place_takeOut d a.entry, ?_, ?_, ?_⟩
  · rw [turned, Array.size_setIfInBounds, recent_snoc full first, ← rest, List.map_append]
    rfl
  · rw [filled, Array.size_setIfInBounds, List.length_append, Nat.sub_eq_zero_of_le (by omega),
      List.range'_zero]
  · intro room
    rw [Array.size_setIfInBounds, List.length_append] at room
    omega

end Filed

end Dial

/-! ## The cache -/

variable {c : Cache}

theorem Consistent.size_of_filed (h : c.Consistent) (filed : c.dial.Filed arrived) :
    c.size = min arrived.length c.capacity := by
  rw [h.size_eq_length, c.dial.queue_perm.length_eq, filed.circuit, List.length_map, length_recent,
    h.slots_size]

theorem Consistent.used_of_filed (h : c.Consistent) (filed : c.dial.Filed arrived) :
    c.used ≤ cargo arrived := by
  have bytes : c.used = cargo (recent c.dial.slots.size arrived) := by
    rw [h.used_eq_load, load, (c.dial.queue_perm.map _).sum_eq, filed.circuit, List.map_map]
    rfl
  exact bytes ▸ cargo_recent_le ..

theorem Consistent.value?_of_filed (h : c.Consistent) (filed : c.dial.Filed arrived) (key : String)
    (value : ByteArray) : c.value? key = some value ↔ ⟨key, value⟩ ∈ recent c.capacity arrived := by
  rw [h.value?_eq_some_iff, ← h.slots_size]
  have entries : ∀ e, (∃ i, c.dial.occupant? i = some e) ↔
      ∃ a ∈ recent c.dial.slots.size arrived, a.entry = e := by
    intro e
    rw [← Dial.mem_circuit_iff, filed.circuit, List.mem_map]
  constructor
  · intro given
    obtain ⟨i, _, content, rfl, rfl⟩ := given
    obtain ⟨e, held, rfl⟩ := Dial.content?_eq_some_iff.mp content
    obtain ⟨a, member, rfl⟩ := (entries e).mp ⟨i, held⟩
    exact member
  · intro member
    obtain ⟨i, held⟩ := (entries _).mpr ⟨_, member, rfl⟩
    exact ⟨i, _, Dial.content?_eq_some_iff.mpr ⟨_, held, rfl⟩, rfl, rfl⟩

theorem Consistent.unlisted_of_filed (h : c.Consistent) (filed : c.dial.Filed arrived) {key : String}
    (new : key ∉ arrived.map Arrival.key) : c.index[key]? = none := by
  rw [← Option.not_isSome_iff_eq_none, ← contains_eq_isSome, ← h.isSome_value?]
  intro cached
  -- What is cached has arrived, and this key has not.
  obtain ⟨value, cached⟩ := Option.isSome_iff_exists.mp cached
  have member := (h.value?_of_filed filed key value).mp cached
  exact new (List.mem_map_of_mem (List.mem_of_mem_drop member))

theorem Consistent.expel_of_ripe {e : Entry} (h : c.Consistent) (ripe : c.dial.Ripe e) :
    ∃ rest, c.expel = some (⟨e.key, e.size, c.used - e.size⟩, rest) ∧
      rest.dial = c.dial.takeOut ∧ rest.used ≤ c.used := by
  rw [Cache.expel, Dial.expel_of_ripe h.inOrder ripe]
  exact ⟨_, rfl, rfl, Nat.sub_le ..⟩

theorem Consistent.makeRoom_once {fits : Cache → Bool} {out : Eviction} {rest : Cache} (h : c.Consistent)
    (crowded : fits c = false) (left : c.expel = some (out, rest)) (roomy : fits rest = true) :
    c.makeRoom fits = ([out], rest) := by
  obtain ⟨more, rounds⟩ : ∃ more, c.dial.capacity = more + 1 :=
    Nat.exists_eq_succ_of_ne_zero (Nat.ne_zero_of_lt h.inOrder.hand_lt)
  rw [Cache.makeRoom, rounds, expelUntil_next crowded left, expelUntil_stop (.inl roomy)]

/-- A new key comes at the cost of the oldest one, if of any. -/
theorem Coherent.set_in_turn (h : c.Coherent) (filed : c.dial.Filed arrived) {key : String}
    {value : ByteArray} (fit : Fit c.byteLimit (arrived ++ [⟨key, value⟩])) :
    Turn c.capacity arrived (c.set key value) ∧
      (c.set key value).cache.dial.Filed (arrived ++ [⟨key, value⟩]) := by
  have consistent := h.toConsistent
  have ordered := consistent.inOrder
  have slots := consistent.slots_size
  have size := consistent.size_of_filed filed
  have used := consistent.used_of_filed filed
  have new : key ∉ arrived.map Arrival.key := fit.last.1
  have small : cargo arrived + value.size ≤ c.byteLimit := fit.last.2
  have added : c.set key value = c.add key value := by
    rw [Cache.set, if_neg (by omega), consistent.unlisted_of_filed filed new]
  rw [added, Cache.add]
  by_cases room : arrived.length < c.capacity
  · -- There is room already, so nobody leaves.
    have roomy : hasRoomFor value.size c = true := by
      simp only [hasRoomFor, Bool.and_eq_true, decide_eq_true_eq]
      omega
    obtain ⟨i, dial, placed, filed'⟩ := filed.place ordered (by omega) ⟨key, value⟩
    have placed : c.dial.place (.fresh key value) = some (i, dial) := placed
    simp only [makeRoom, expelUntil_stop (.inl roomy), placed]
    exact ⟨⟨rfl, fun _ => rfl, fun full => absurd room (by omega)⟩, filed'⟩
  · -- The hand takes one entry out, and then there is room.
    have full : c.dial.slots.size ≤ arrived.length := by omega
    obtain ⟨oldest, later, i, dial, first, ripe, placed, filed'⟩ :=
      filed.relieve ordered full ⟨key, value⟩
    have placed : c.dial.takeOut.place (.fresh key value) = some (i, dial) := placed
    have crowded : hasRoomFor value.size c = false := by
      have filled : ¬ c.size < c.capacity := by omega
      simp [hasRoomFor, filled]
    obtain ⟨rest, left, dial_rest, used_rest⟩ := consistent.expel_of_ripe ripe
    have limits := sameLimits_expel left
    have fewer := consistent.size_expel left
    have roomy : hasRoomFor value.size rest = true := by
      simp only [hasRoomFor, Bool.and_eq_true, decide_eq_true_eq, limits.1, limits.2]
      omega
    have placed : rest.dial.place (.fresh key value) = some (i, dial) := dial_rest ▸ placed
    rw [consistent.makeRoom_once crowded left roomy]
    simp only [placed]
    refine ⟨⟨rfl, fun room' => absurd room' room, fun _ => ⟨oldest, later, ?_, rfl⟩⟩, filed'⟩
    exact slots ▸ first

/-- Who has left after one arrival more. -/
theorem Turn.gone {p : Placement} (turn : Turn capacity arrived p) (a : Arrival) :
    (gone capacity (arrived ++ [a])).map Arrival.key =
      (gone capacity arrived).map Arrival.key ++ p.evicted.map Eviction.key := by
  by_cases room : arrived.length < capacity
  · have length : (arrived ++ [a]).length ≤ capacity := by
      rw [List.length_append]
      exact room
    rw [turn.room room, gone_of_room (Nat.le_of_lt room), gone_of_room length]
    rfl
  · obtain ⟨oldest, later, first, left⟩ := turn.full (Nat.not_lt.mp room)
    rw [left, gone_snoc (Nat.not_lt.mp room) first, List.map_append]
    rfl

/-! ## Runs -/

theorem dial_get_of_none {key : String} (missing : (c.get key).1 = none) :
    (c.get key).2.dial = c.dial := by
  rw [Cache.get] at missing ⊢
  cases found : c.find? key with
  | none => rfl
  | some pair =>
    rw [found] at missing
    cases missing

theorem dial_forget_of_false {key : String} (missing : (c.forget key).1 = false) :
    (c.forget key).2.dial = c.dial := by
  rw [Cache.forget] at missing ⊢
  cases listed : c.index[key]? with
  | none => rfl
  | some i =>
    cases taken : c.dial.vacate i with
    | none => simp only [taken]
    | some pair =>
      simp only [listed, taken] at missing
      cases missing

/-- A call that uses nothing and offers nothing leaves the dial as it is. -/
theorem step_undisturbing {call : Call} (undisturbed : undisturbing (c, call) = true)
    (none : call.arrival? = none) : (c.step call).2.dial = c.dial ∧ (c.step call).1.evicted = [] := by
  cases call with
  | get key => exact ⟨dial_get_of_none (Option.isNone_iff_eq_none.mp undisturbed), rfl⟩
  | set key value => cases none
  | forget key => exact ⟨dial_forget_of_false (by simpa [undisturbing] using undisturbed), rfl⟩
  | contains _ | isEmpty | snapshot => exact ⟨rfl, rfl⟩

theorem arrivals_cons (call : Call) (calls : List Call) :
    arrivals (call :: calls) = call.arrival?.toList ++ arrivals calls := by
  rw [arrivals, List.filterMap_cons]
  cases call.arrival? with
  | none => rfl
  | some a => rfl

theorem arrivals_append (before after : List Call) :
    arrivals (before ++ after) = arrivals before ++ arrivals after :=
  List.filterMap_append

/-- One call keeps the dial filed. -/
theorem Coherent.step_filed (h : c.Coherent) (filed : c.dial.Filed arrived) {call : Call}
    (fit : Fit c.byteLimit (arrived ++ call.arrival?.toList)) (undisturbed : undisturbing (c, call) = true) :
    (c.step call).2.dial.Filed (arrived ++ call.arrival?.toList) ∧
      (gone c.capacity (arrived ++ call.arrival?.toList)).map Arrival.key =
        (gone c.capacity arrived).map Arrival.key ++ (c.step call).1.evicted.map Eviction.key := by
  cases arrival : call.arrival? with
  | none =>
    obtain ⟨dial, evicted⟩ := step_undisturbing undisturbed arrival
    rw [dial, evicted]
    simpa using filed
  | some a =>
    cases call with
    | set key value =>
      cases arrival
      obtain ⟨turn, filed'⟩ := h.set_in_turn filed fit
      exact ⟨filed', turn.gone _⟩
    | get _ | forget _ | contains _ | isEmpty | snapshot => cases arrival

theorem Coherent.run_filed (h : c.Coherent) (filed : c.dial.Filed arrived) {calls : List Call}
    (fit : Fit c.byteLimit (arrived ++ arrivals calls))
    (undisturbed : ∀ moment ∈ c.moments calls, undisturbing moment = true) :
    (c.run calls).dial.Filed (arrived ++ arrivals calls) ∧
      (gone c.capacity (arrived ++ arrivals calls)).map Arrival.key =
        (gone c.capacity arrived).map Arrival.key ++ (c.evictions calls).map Eviction.key := by
  induction calls generalizing c arrived with
  | nil => simpa [arrivals, Cache.evictions] using filed
  | cons call calls ih =>
    rw [arrivals_cons, ← List.append_assoc] at fit ⊢
    obtain ⟨next, limits⟩ := h.step call
    obtain ⟨filed', leave⟩ := h.step_filed filed fit.front (undisturbed _ List.mem_cons_self)
    obtain ⟨last, later⟩ := ih next filed' (limits.2 ▸ fit) fun moment member =>
      undisturbed moment (List.mem_cons_of_mem _ member)
    rw [limits.1] at later
    refine ⟨last, ?_⟩
    rw [later, leave, Cache.evictions, List.map_append, List.append_assoc]

/-- If all keys are different, the values fit together, and nobody uses or forgets what is cached
    meanwhile, then a new cache keeps the last of the values that it is offered, as many as it has
    slots.  The others leave in the order in which they came, one for each value that comes after
    the slots are filled. -/
theorem first_in_first_out {capacity byteLimit : Nat} (created : create capacity byteLimit = .ok c)
    {calls : List Call} (fit : Fit byteLimit (arrivals calls))
    (undisturbed : ∀ moment ∈ c.moments calls, undisturbing moment = true) :
    FirstInFirstOut capacity c calls := by
  obtain ⟨positive, rfl⟩ := create_eq_ok_iff.mp created
  have coherent := coherent_empty positive byteLimit
  have filed : (empty capacity byteLimit).dial.Filed [] := Dial.filed_empty capacity
  have capacity_run : ∀ calls, ((empty capacity byteLimit).run calls).capacity = capacity :=
    fun calls => (coherent.run calls).2.1
  obtain ⟨last, leave⟩ := coherent.run_filed filed fit undisturbed
  have consistent := (coherent.run calls).1.toConsistent
  refine ⟨fun key value => ?_, ?_, ?_, fun before key value after split => ?_⟩
  · rw [consistent.value?_of_filed last, capacity_run, List.nil_append]
  · rw [consistent.size_of_filed last, capacity_run, List.nil_append]
  · have none : gone (empty capacity byteLimit).capacity [] = [] := gone_of_room (Nat.zero_le _)
    rw [none, List.map_nil, List.nil_append, List.nil_append] at leave
    exact leave.symm
  · -- The calls before this one are a run of their own, and leave the dial filed.
    rw [split, arrivals_append, arrivals_cons, ← List.append_assoc] at fit
    rw [split, moments_append] at undisturbed
    obtain ⟨filed', -⟩ := coherent.run_filed filed fit.front.front fun moment member =>
      undisturbed moment (List.mem_append_left _ member)
    obtain ⟨next, limits⟩ := coherent.run before
    have fit : Fit ((empty capacity byteLimit).run before).byteLimit (arrivals before ++ [⟨key, value⟩]) :=
      ⟨fit.front.distinct, fit.front.small.trans_eq limits.2.symm⟩
    have turn := (next.set_in_turn filed' fit).1
    rwa [capacity_run] at turn

/-- Five values come into three slots, while look-ups miss what has left or has not come yet. -/
theorem first_in_first_out_of_five :
    let c := empty 3 9
    let calls := [.set "a" ⟨#[1]⟩, .get "c", .set "b" ⟨#[2, 2]⟩, .set "c" ⟨#[3]⟩, .contains "a",
      .set "d" ⟨#[4, 4, 4]⟩, .get "a", .snapshot, .set "e" ⟨#[5, 5]⟩, .forget "b", .isEmpty]
    create 3 9 = .ok c ∧ Fit 9 (arrivals calls) ∧
      (∀ moment ∈ c.moments calls, undisturbing moment = true) ∧
      c.evictions calls = [⟨"a", 1, 3⟩, ⟨"b", 2, 4⟩] ∧ FirstInFirstOut 3 c calls := by
  intro c calls
  have created : create 3 9 = .ok c := rfl
  have fit : Fit 9 (arrivals calls) := ⟨by decide, by decide⟩
  have undisturbed : ∀ moment ∈ c.moments calls, undisturbing moment = true := by
    rw [← List.all_eq_true]
    decide +kernel
  exact ⟨created, fit, undisturbed, by decide +kernel, first_in_first_out created fit undisturbed⟩

end BlobDepot.Cache
