import BlobDepot.Proofs.Cache.Contents
import BlobDepot.Proofs.Cache.Queue

/-! # Who has to leave

Making room is a loop: the hand takes one entry out, and the limits are looked at again.
Since a sweep takes the first of the queue out and leaves the others in their order, the
loop takes a front part of the queue out, and since it looks before each sweep, no
shorter front part would have done (`Consistent.expelUntil_splits`).

`Reachable.set_takes_victims` says so of a value that is offered to a cache.  If its key
is cached already, the queue is that of the entries after the value was renewed, which
counts as a use; the entry itself may be among those that leave.
-/

namespace BlobDepot.Cache

/-- The bytes of some entries. -/
def load (entries : List Entry) : Nat :=
  (entries.map fun e => e.value.size).sum

/-- The evictions of entries that leave one after the other a cache with `used` bytes in
    use. -/
def departures (used : Nat) : List Entry → List Eviction
  | [] => []
  | e :: rest => ⟨e.key, e.size, used - e.size⟩ :: departures (used - e.size) rest

/-- Without the `victims` there is room, and no smaller number of entries from the front
    of the queue would have been enough. -/
structure FirstSplit (room : List Entry → Prop) (queue victims rest : List Entry) : Prop where
  split : queue = victims ++ rest
  enough : room rest
  shortest : ∀ fewer others, queue = fewer ++ others → room others → victims.length ≤ fewer.length

variable {c : Cache} {room : List Entry → Prop} {queue victims rest : List Entry} {e : Entry}

/-! ## Splitting a queue -/

theorem FirstSplit.nil (enough : room queue) : FirstSplit room queue [] queue :=
  ⟨rfl, enough, fun _ _ _ _ => Nat.zero_le _⟩

theorem FirstSplit.cons (full : ¬ room (e :: queue)) (h : FirstSplit room queue victims rest) :
    FirstSplit room (e :: queue) (e :: victims) rest := by
  refine ⟨by rw [h.split, List.cons_append], h.enough, fun fewer others split roomy => ?_⟩
  cases fewer with
  | nil =>
    -- Nobody leaves, so there is no room.
    rw [List.nil_append] at split
    exact absurd (split ▸ roomy) full
  | cons first fewer =>
    have shorter := h.shortest fewer others (List.cons.inj split).2 roomy
    simpa using shorter

/-- Whether bits are set makes no difference to a split by what does not look at them. -/
theorem FirstSplit.of_unmarked (blind : ∀ es, room (es.map Entry.unmark) ↔ room es)
    (h : FirstSplit room (queue.map Entry.unmark) victims rest) :
    ∃ victims' rest', FirstSplit room queue victims' rest' ∧
      victims'.map Entry.unmark = victims ∧ rest'.map Entry.unmark = rest := by
  obtain ⟨victims', rest', split, rfl, rfl⟩ := List.map_eq_append_iff.mp h.split
  refine ⟨victims', rest', ⟨split, (blind rest').mp h.enough, fun fewer others cut roomy => ?_⟩, rfl, rfl⟩
  have shorter := h.shortest (fewer.map Entry.unmark) (others.map Entry.unmark)
    (by rw [cut, List.map_append]) ((blind others).mpr roomy)
  simpa using shorter

theorem FirstSplit.eq_nil (h : FirstSplit room queue victims rest) (enough : room queue) :
    victims = [] :=
  List.length_eq_zero_iff.mp (Nat.le_zero.mp (h.shortest [] queue rfl enough))

theorem load_unmarked (entries : List Entry) : load (entries.map Entry.unmark) = load entries := by
  rw [load, List.map_map]
  rfl

theorem departures_unmarked (used : Nat) (entries : List Entry) :
    departures used (entries.map Entry.unmark) = departures used entries := by
  induction entries generalizing used with
  | nil => rfl
  | cons e rest ih => simp [departures, ih]

theorem keys_departures (used : Nat) (entries : List Entry) :
    (departures used entries).map Eviction.key = entries.map Entry.key := by
  induction entries generalizing used with
  | nil => rfl
  | cons e rest ih => simp [departures, ih]

/-! ## The queue of a cache -/

theorem Consistent.size_eq_length (h : c.Consistent) : c.size = c.dial.queue.length := by
  rw [h.size_eq, Dial.count, Dial.weigh_eq_sum]
  simp

/-- The queue has one entry for each listed key. -/
theorem Consistent.keys_perm (h : c.Consistent) :
    c.index.keys.Perm (c.dial.queue.map Entry.key) := by
  have queued : c.index.keys ⊆ c.dial.queue.map Entry.key := by
    intro key listed
    obtain ⟨i, listed⟩ := Option.isSome_iff_exists.mp (Std.ExtTreeMap.isSome_getElem?_iff_mem.mpr
      (Std.ExtTreeMap.mem_keys.mp listed))
    obtain ⟨e, held, rfl⟩ := h.held_of_listed listed
    exact List.mem_map_of_mem (Dial.mem_queue_iff.mpr ⟨i, held⟩)
  -- There are as many entries as listed keys, and each key is listed once.
  have lengths : (c.dial.queue.map Entry.key).length ≤ c.index.keys.length := by
    rw [List.length_map, ← h.size_eq_length, Std.ExtTreeMap.length_keys]
    exact Nat.le_refl _
  exact (List.subperm_of_subset Std.ExtTreeMap.nodup_keys queued).perm_of_length_le lengths

theorem Consistent.used_eq_load (h : c.Consistent) : c.used = load c.dial.queue := by
  rw [h.used_eq, Dial.bytes, Dial.weigh_eq_sum, load]
  refine congrArg List.sum (List.map_congr_left fun e member => ?_)
  obtain ⟨i, held⟩ := Dial.mem_queue_iff.mp member
  exact h.size_value i e held

theorem Consistent.queue_expel {c' : Cache} {out : Eviction} (h : c.Consistent)
    (left : c.expel = some (out, c')) :
    ∃ e, c.dial.queue.map Entry.unmark = e :: c'.dial.queue.map Entry.unmark ∧
      out = ⟨e.key, e.size, c.used - e.size⟩ ∧ c'.used = c.used - e.size := by
  obtain ⟨e, dial, expels, rfl, rfl⟩ := expel_eq_some left
  exact ⟨e, expels.queue h.inOrder, rfl, rfl⟩

theorem Consistent.queue_eq_nil (h : c.Consistent) (stuck : c.expel = none) : c.dial.queue = [] := by
  by_contra nonempty
  have entries : c.size ≠ 0 := by simpa [h.size_eq_length] using nonempty
  obtain ⟨out, rest, left⟩ := h.exists_expel entries
  rw [stuck] at left
  cases left

/-- The loop takes out the front of the queue, as far as it has to and no further. -/
theorem Consistent.expelUntil_splits {fits : Cache → Bool} {rounds : Nat} (h : c.Consistent)
    (enough : c.size ≤ rounds) (bare : room [])
    (judged : ∀ {c'}, c'.Consistent → c.SameLimits c' →
      (fits c' = true ↔ room (c'.dial.queue.map Entry.unmark))) :
    ∃ victims rest, FirstSplit room (c.dial.queue.map Entry.unmark) victims rest ∧
      (expelUntil fits rounds c).1 = departures c.used victims := by
  induction rounds generalizing c with
  | zero =>
    have none : c.dial.queue = [] := by
      rw [← List.length_eq_zero_iff, ← h.size_eq_length]
      omega
    rw [none]
    exact ⟨[], [], .nil bare, rfl⟩
  | succ rounds ih =>
    obtain stop | ⟨full, out, after, left⟩ := stop_or_expel fits c
    · rw [expelUntil_stop stop]
      refine ⟨[], _, .nil ?_, rfl⟩
      obtain done | stuck := stop
      · exact (judged h ⟨rfl, rfl⟩).mp done
      · rw [h.queue_eq_nil stuck]
        exact bare
    · rw [expelUntil_next full left]
      obtain ⟨e, queue, rfl, used⟩ := h.queue_expel left
      have smaller := h.size_expel left
      obtain ⟨victims, rest, split, outs⟩ := ih (h.expel left) (by omega)
        fun h' limits => judged h' ((sameLimits_expel left).trans limits)
      refine ⟨e :: victims, rest, ?_, ?_⟩
      · rw [queue]
        refine split.cons fun roomy => ?_
        rw [← queue, ← judged h ⟨rfl, rfl⟩, full] at roomy
        cases roomy
      · rw [outs, used]
        rfl

theorem Consistent.makeRoom_splits {fits : Cache → Bool} (h : c.Consistent) (bare : room [])
    (blind : ∀ es, room (es.map Entry.unmark) ↔ room es)
    (judged : ∀ {c'}, c'.Consistent → c.SameLimits c' → (fits c' = true ↔ room c'.dial.queue)) :
    ∃ victims rest, FirstSplit room c.dial.queue victims rest ∧
      (c.makeRoom fits).1 = departures (load c.dial.queue) victims := by
  have enough : c.size ≤ c.dial.capacity := by
    rw [Dial.capacity, h.slots_size]
    exact h.size_le_capacity
  obtain ⟨victims, rest, split, outs⟩ := h.expelUntil_splits enough bare
    fun h' limits => (judged h' limits).trans (blind _).symm
  obtain ⟨victims', rest', split', rfl, -⟩ := split.of_unmarked blind
  exact ⟨victims', rest', split', by rw [Cache.makeRoom, outs, departures_unmarked, h.used_eq_load]⟩

/-! ## A value that is offered -/

/-- The entry once a value was offered under a key: if that is its own key, the entry has
    the value now, which counts as a use. -/
def Entry.offered (key : String) (value : ByteArray) (e : Entry) : Entry :=
  if e.key = key then e.renew value else e

/-- The entries as the hand finds them after a value was offered, in the order in which it
    takes them out. -/
def line (c : Cache) (key : String) (value : ByteArray) : List Entry :=
  Dial.clearFirst (c.dial.circuit.map (Entry.offered key value))

/-- The limits hold with the entries in `rest`, to which the value comes if its key is not
    cached. -/
def LeavesRoom (c : Cache) (key : String) (value : ByteArray) (rest : List Entry) : Prop :=
  if c.contains key then load rest ≤ c.byteLimit
  else rest.length < c.capacity ∧ load rest + value.size ≤ c.byteLimit

variable {key : String} {value : ByteArray}

theorem Consistent.queue_replace (h : c.Consistent) {i : Nat} (listed : c.index[key]? = some i) :
    (c.replace i value).dial.queue = c.line key value := by
  obtain ⟨e, held, hkey⟩ := h.held_of_listed listed
  -- The key stands in slot `i` only, so renewing that slot renews the entry of the key.
  have slots : c.dial.slots.modify i (Option.map (·.renew value)) =
      c.dial.slots.map (Option.map (Entry.offered key value)) := by
    apply Array.ext_getElem?
    intro j
    rw [Array.getElem?_modify, Array.getElem?_map]
    cases slot : c.dial.slots[j]? with
    | none => simp
    | some occupant =>
      cases occupant with
      | none => simp
      | some e' =>
        have held' : c.dial.occupant? j = some e' := by simp [Dial.occupant?, slot]
        by_cases here : i = j
        · subst here
          rw [held] at held'
          cases held'
          simp [Entry.offered, hkey]
        · have other : e'.key ≠ key := by
            intro same
            rw [← same, h.listed held'] at listed
            exact here (Option.some.inj listed).symm
          simp [here, Entry.offered, other]
  rw [Cache.replace, held]
  simp only [Dial.queue, Dial.circuit, Dial.modify, slots, line]
  rw [Array.toList_map, ← List.map_rotate, List.reduceOption_map]

theorem Consistent.key_ne_of_unlisted (h : c.Consistent) (unlisted : c.index[key]? = none)
    (member : e ∈ c.dial.circuit) : e.key ≠ key := by
  intro same
  obtain ⟨i, held⟩ := Dial.mem_circuit_iff.mp member
  rw [← same, h.listed held] at unlisted
  cases unlisted

theorem Consistent.line_of_unlisted (h : c.Consistent) (unlisted : c.index[key]? = none) :
    c.line key value = c.dial.queue := by
  have untouched : ∀ e ∈ c.dial.circuit, e.offered key value = e := by
    intro e member
    rw [Entry.offered, if_neg (h.key_ne_of_unlisted unlisted member)]
  rw [line, List.map_congr_left untouched, List.map_id', Dial.queue]

theorem Entry.offered_key (e : Entry) : (e.offered key value).key = e.key := by
  rw [Entry.offered]
  split <;> rfl

/-- Only keys that are cached already stand in the line. -/
theorem Consistent.contains_of_mem_line (h : c.Consistent) (member : e ∈ c.line key value) :
    c.contains e.key = true := by
  obtain ⟨old, turned, rfl⟩ := List.mem_map.mp ((Dial.clearFirst_perm _).mem_iff.mp member)
  obtain ⟨i, held⟩ := Dial.mem_circuit_iff.mp turned
  rw [Entry.offered_key, contains_eq_isSome, h.listed held]
  rfl

theorem leavesRoom_of_listed {i : Nat} (listed : c.index[key]? = some i) (value : ByteArray)
    (rest : List Entry) : c.LeavesRoom key value rest ↔ load rest ≤ c.byteLimit := by
  have cached : c.contains key = true := by simp [contains_eq_isSome, listed]
  rw [LeavesRoom, if_pos cached]

theorem leavesRoom_of_unlisted (unlisted : c.index[key]? = none) (value : ByteArray)
    (rest : List Entry) : c.LeavesRoom key value rest ↔
      rest.length < c.capacity ∧ load rest + value.size ≤ c.byteLimit := by
  have absent : ¬ c.contains key = true := by simp [contains_eq_isSome, unlisted]
  rw [LeavesRoom, if_neg absent]

theorem Coherent.set_splits (h : c.Coherent) (key : String) (small : value.size ≤ c.byteLimit) :
    (c.set key value).verdict = .stored ∧ ∃ victims rest,
      FirstSplit (c.LeavesRoom key value) (c.line key value) victims rest ∧
        (c.set key value).evicted = departures (load (c.line key value)) victims := by
  have consistent := h.toConsistent
  rw [Cache.set, if_neg (Nat.not_lt.mpr small)]
  cases listed : c.index[key]? with
  | some i =>
    refine ⟨rfl, ?_⟩
    have room := leavesRoom_of_listed listed value
    have limits := sameLimits_replace c i value
    rw [← consistent.queue_replace listed]
    apply (consistent.replace i value).makeRoom_splits
    · rw [room]
      exact Nat.zero_le _
    · intro es
      rw [room, room, load_unmarked]
    · intro c' consistent' limits'
      rw [room, withinBytes, consistent'.used_eq_load, limits'.2, limits.2, decide_eq_true_iff]
  | none =>
    have room := leavesRoom_of_unlisted listed value
    obtain ⟨i, dial, _, added⟩ := consistent.add_eq key small
    rw [added, consistent.line_of_unlisted listed]
    refine ⟨rfl, ?_⟩
    apply consistent.makeRoom_splits
    · rw [room]
      have positive := consistent.inOrder.hand_lt
      rw [consistent.slots_size] at positive
      exact ⟨Nat.zero_lt_of_lt positive, by simpa [load] using small⟩
    · intro es
      rw [room, room, load_unmarked, List.length_map]
    · intro c' consistent' limits'
      rw [room, hasRoomFor, consistent'.used_eq_load, consistent'.size_eq_length, limits'.1, limits'.2]
      simp

/-- Offering a value that is small enough stores it and takes out the shortest front part of
    the line after which the limits hold, in its order.  The cache then holds what it held
    before, and the value under its key, except under the keys of those that left, which were
    all cached before.  Nobody leaves if there is room already. -/
theorem Reachable.set_takes_victims (h : c.Reachable) (key : String)
    (small : value.size ≤ c.byteLimit) :
    (c.set key value).verdict = .stored ∧
      (∃ victims rest,
        FirstSplit (c.LeavesRoom key value) (c.line key value) victims rest ∧
        (c.set key value).evicted = departures (load (c.line key value)) victims ∧
        (∀ e ∈ victims, c.contains e.key = true) ∧
        ∀ k, (c.set key value).cache.value? k =
          if k ∈ victims.map Entry.key then none else if k = key then some value else c.value? k) ∧
      (c.LeavesRoom key value (c.line key value) → (c.set key value).evicted = []) := by
  obtain ⟨stored, victims, rest, split, outs⟩ := h.coherent.set_splits key small
  refine ⟨stored, ⟨victims, rest, split, outs, fun e member => ?_, fun k => ?_⟩, fun roomy => ?_⟩
  · apply h.coherent.toConsistent.contains_of_mem_line
    rw [split.split]
    exact List.mem_append_left rest member
  · have left : (∀ out ∈ (c.set key value).evicted, out.key ≠ k) ↔ k ∉ victims.map Entry.key := by
      rw [outs, ← keys_departures (load (c.line key value))]
      simp
    apply Option.ext
    intro v
    rw [h.coherent.value?_set_iff, left, stored]
    by_cases gone : k ∈ victims.map Entry.key
    · rw [if_pos gone]
      simp [gone]
    · rw [if_neg gone, and_iff_right gone]
      by_cases same : k = key
      · simp [same, eq_comm]
      · simp [same]
  · rw [outs, split.eq_nil roomy]
    rfl

/-- A cached value grows.  The hand takes out the only entry with a clear bit and then, in
    its second round, the first of the others. -/
theorem Reachable.set_takes_victims_of_growth :
    let c := (empty 3 6).run
      [.set "a" ⟨#[1, 1]⟩, .set "b" ⟨#[2, 2]⟩, .set "c" ⟨#[3, 3]⟩, .get "a"]
    let grown : ByteArray := ⟨#[4, 4, 4, 4, 4]⟩
    grown.size ≤ c.byteLimit ∧
      (c.set "b" grown).evicted = [⟨"c", 2, 7⟩, ⟨"a", 2, 5⟩] ∧
      (c.set "b" grown).verdict = .stored ∧
      (∃ victims rest,
        FirstSplit (c.LeavesRoom "b" grown) (c.line "b" grown) victims rest ∧
        (c.set "b" grown).evicted = departures (load (c.line "b" grown)) victims ∧
        (∀ e ∈ victims, c.contains e.key = true) ∧
        ∀ k, (c.set "b" grown).cache.value? k =
          if k ∈ victims.map Entry.key then none else if k = "b" then some grown else c.value? k) ∧
      (c.LeavesRoom "b" grown (c.line "b" grown) → (c.set "b" grown).evicted = []) :=
  ⟨by decide +kernel, by decide +kernel,
    Reachable.set_takes_victims ⟨3, 6, _, by decide, rfl⟩ "b" (by decide +kernel)⟩

end BlobDepot.Cache
