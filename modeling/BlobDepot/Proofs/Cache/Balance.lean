import BlobDepot.Proofs.Cache.Victims

/-! # The balance of a cache

The tally of a cache is kept in several places: where a look-up ends, where a value is
refused, where the hand takes an entry out and where an entry is forgotten.  Nothing counts
the entries that come.  Still the books balance: over a run, the entries that came are those
that are there and those whose leaving was counted.

`Consistent.tally_step` and `Consistent.size_step` say what one call adds to the tally and to
the number of entries.  `created_run_balanced` adds this up over a run of a new cache.
-/

namespace BlobDepot.Cache

/-! ## Calls and the cache they meet -/

/-- The calls of a sequence, each with the cache that it meets. -/
def moments (c : Cache) : List Call → List (Cache × Call)
  | [] => []
  | call :: calls => (c, call) :: moments (c.step call).2 calls

theorem moments_append (c : Cache) (before after : List Call) :
    c.moments (before ++ after) = c.moments before ++ (c.run before).moments after := by
  induction before generalizing c with
  | nil => rfl
  | cons call before ih => rw [List.cons_append, moments, moments, ih, List.cons_append, run_cons]

def Call.isGet : Call → Bool
  | .get _ => true
  | _ => false

/-- A look-up that finds a value. -/
def finds : Cache × Call → Bool
  | (c, .get key) => (c.get key).1.isSome
  | _ => false

/-- A look-up that finds nothing. -/
def misses : Cache × Call → Bool
  | (c, .get key) => (c.get key).1.isNone
  | _ => false

/-- A value that is refused. -/
def refuses : Cache × Call → Bool
  | (c, .set key value) => (c.set key value).verdict = .rejected
  | _ => false

/-- A value that is stored under a key that was not cached. -/
def admits : Cache × Call → Bool
  | (c, .set key value) => !c.contains key && (c.set key value).verdict = .stored
  | _ => false

/-- An entry that leaves otherwise than by the hand: its key is forgotten, or a value that
    was to replace its own is refused. -/
def drops : Cache × Call → Bool
  | (c, .set key value) => c.contains key && (c.set key value).verdict = .rejected
  | (c, .forget key) => (c.forget key).1
  | _ => false

variable {c : Cache}

/-! ## What an operation counts -/

theorem tally_get (c : Cache) (key : String) :
    (c.get key).2.tally = if (c.get key).1.isSome then c.tally.hit else c.tally.miss := by
  rw [get]
  cases c.find? key with
  | none => rfl
  | some pair => rfl

theorem size_get (c : Cache) (key : String) : (c.get key).2.size = c.size := by
  rw [get]
  cases c.find? key with
  | none => rfl
  | some pair => rfl

/-- Making room counts every entry that leaves. -/
theorem tally_expelUntil (fits : Cache → Bool) (rounds : Nat) (c : Cache) :
    (expelUntil fits rounds c).2.tally =
      { c.tally with evictions := c.tally.evictions + (expelUntil fits rounds c).1.length } := by
  induction rounds generalizing c with
  | zero => rfl
  | succ rounds ih =>
    obtain stop | ⟨full, out, rest, left⟩ := stop_or_expel fits c
    · rw [expelUntil_stop stop]
      rfl
    · rw [expelUntil_next full left, ih]
      obtain ⟨e, dial, -, -, rfl⟩ := expel_eq_some left
      simp only [Tally.eviction, List.length_cons, Tally.mk.injEq, true_and, and_true]
      omega

theorem Consistent.size_expelUntil {fits : Cache → Bool} {rounds : Nat} (h : c.Consistent) :
    (expelUntil fits rounds c).2.size + (expelUntil fits rounds c).1.length = c.size := by
  induction rounds generalizing c with
  | zero => rfl
  | succ rounds ih =>
    obtain stop | ⟨full, out, rest, left⟩ := stop_or_expel fits c
    · rw [expelUntil_stop stop]
      rfl
    · have smaller := h.size_expel left
      have later := ih (h.expel left)
      simp only [expelUntil_next full left, List.length_cons]
      omega

theorem Consistent.makeRoom_counts (h : c.Consistent) (fits : Cache → Bool) :
    (c.makeRoom fits).2.tally =
        { c.tally with evictions := c.tally.evictions + (c.makeRoom fits).1.length } ∧
      (c.makeRoom fits).2.size + (c.makeRoom fits).1.length = c.size :=
  ⟨tally_expelUntil fits _ c, h.size_expelUntil⟩

theorem Consistent.forget_counts (h : c.Consistent) (key : String) :
    (c.forget key).1 = c.contains key ∧
      (c.forget key).2.tally = (if c.contains key then c.tally.eviction else c.tally) ∧
      (c.forget key).2.size + (c.contains key).toNat = c.size := by
  cases listed : c.index[key]? with
  | none => simp [forget_of_unlisted listed, contains_eq_isSome, listed]
  | some i =>
    obtain ⟨e, dial, taken, -, forgotten⟩ := h.forget_of_listed listed
    obtain ⟨e', held, -⟩ := h.held_of_listed listed
    have positive := h.size_pos held
    have present : c.contains key = true := by simp [contains_eq_isSome, listed]
    have present' : c.index.contains key = true := present
    rw [forgotten, present]
    refine ⟨rfl, rfl, ?_⟩
    simp only [size, Std.ExtTreeMap.size_erase, present', if_true, Bool.toNat_true] at positive ⊢
    omega

theorem replace_counts (c : Cache) (i : Nat) (value : ByteArray) :
    (c.replace i value).tally = c.tally ∧ (c.replace i value).size = c.size := by
  rw [replace]
  cases c.dial.occupant? i with
  | none => exact ⟨rfl, rfl⟩
  | some old => exact ⟨rfl, rfl⟩

/-- A refused value counts, and so does the older copy of its key that is dropped. -/
theorem Consistent.reject_counts (h : c.Consistent) (key : String) :
    (c.reject key).cache.tally = { c.tally with
        evictions := c.tally.evictions + (c.contains key).toNat
        rejections := c.tally.rejections + 1 } ∧
      (c.reject key).cache.size + (c.contains key).toNat = c.size := by
  obtain ⟨-, tally, size⟩ := h.forget_counts key
  refine ⟨?_, size⟩
  simp only [reject, tally]
  cases c.contains key <;> rfl

/-- The entry stays while its value is replaced, and what leaves after that is counted. -/
theorem Consistent.overwrite_counts (h : c.Consistent) (i : Nat) (value : ByteArray) :
    (c.overwrite i value).cache.tally = { c.tally with
        evictions := c.tally.evictions + (c.overwrite i value).evicted.length } ∧
      (c.overwrite i value).cache.size + (c.overwrite i value).evicted.length = c.size := by
  obtain ⟨same_tally, same_size⟩ := replace_counts c i value
  obtain ⟨tally, size⟩ := (h.replace i value).makeRoom_counts withinBytes
  rw [same_tally] at tally
  rw [same_size] at size
  exact ⟨tally, size⟩

/-- One entry comes after those that leave. -/
theorem Consistent.add_counts (h : c.Consistent) {key : String} {value : ByteArray}
    (small : value.size ≤ c.byteLimit) (unlisted : c.index[key]? = none) :
    (c.add key value).cache.tally = { c.tally with
        evictions := c.tally.evictions + (c.add key value).evicted.length } ∧
      (c.add key value).cache.size + (c.add key value).evicted.length = c.size + 1 := by
  obtain ⟨i, dial, -, added⟩ := h.add_eq key small
  obtain ⟨tally, size⟩ := h.makeRoom_counts (hasRoomFor value.size)
  have absent : (c.makeRoom (hasRoomFor value.size)).2.index.contains key = false :=
    contains_eq_false_iff.mpr (unlisted_makeRoom unlisted _)
  rw [added]
  refine ⟨tally, ?_⟩
  simp only [Cache.size, Std.ExtTreeMap.size_insert, absent] at size ⊢
  simp
  omega

/-- What offering a value adds to the tally and to the number of entries. -/
theorem Consistent.set_counts (h : c.Consistent) (key : String) (value : ByteArray) :
    (c.set key value).cache.tally = { c.tally with
        evictions := c.tally.evictions + (c.set key value).evicted.length +
          (drops (c, .set key value)).toNat
        rejections := c.tally.rejections + (refuses (c, .set key value)).toNat } ∧
      (c.set key value).cache.size + (c.set key value).evicted.length +
          (drops (c, .set key value)).toNat =
        c.size + (admits (c, .set key value)).toNat := by
  simp only [drops, refuses, admits]
  by_cases large : c.byteLimit < value.size
  · have refused : c.set key value = c.reject key := by rw [Cache.set, if_pos large]
    obtain ⟨tally, size⟩ := h.reject_counts key
    rw [refused, tally]
    simpa [reject] using size
  · have small := Nat.not_lt.mp large
    cases listed : c.index[key]? with
    | some i =>
      have overwritten : c.set key value = c.overwrite i value := by
        rw [Cache.set, if_neg large, listed]
      have present : c.contains key = true := by simp [contains_eq_isSome, listed]
      rw [overwritten, present]
      exact h.overwrite_counts i value
    | none =>
      have stored : c.set key value = c.add key value := by
        rw [Cache.set, if_neg large, listed]
      have absent := contains_eq_false_iff.mpr listed
      obtain ⟨tally, size⟩ := h.add_counts small listed
      obtain ⟨i, dial, -, added⟩ := h.add_eq key small
      have verdict : (c.add key value).verdict = .stored := by rw [added]
      rw [stored, tally, absent, verdict]
      exact ⟨rfl, size⟩

/-- A value is refused if it is larger than the cache, and for no other reason. -/
theorem Consistent.refuses_set (h : c.Consistent) (key : String) (value : ByteArray) :
    refuses (c, .set key value) = decide (c.byteLimit < value.size) := by
  rw [refuses, Cache.set]
  by_cases large : c.byteLimit < value.size
  · simp [large, reject]
  · obtain ⟨i, dial, -, added⟩ := h.add_eq key (Nat.not_lt.mp large)
    cases c.index[key]? with
    | some i => simp [large, overwrite]
    | none => simp [large, added]

/-! ## Calls and runs -/

/-- What one call adds to the tally. -/
theorem Consistent.tally_step (h : c.Consistent) (call : Call) :
    (c.step call).2.tally = {
      hits := c.tally.hits + (finds (c, call)).toNat
      misses := c.tally.misses + (misses (c, call)).toNat
      evictions := c.tally.evictions + (c.step call).1.evicted.length + (drops (c, call)).toNat
      rejections := c.tally.rejections + (refuses (c, call)).toNat } := by
  cases call with
  | get key =>
    have tally := tally_get c key
    simp only [step, tally, finds, misses, drops, refuses, Answer.evicted]
    cases (c.get key).1 with
    | none => rfl
    | some v => rfl
  | set key value => exact (h.set_counts key value).1
  | forget key =>
    obtain ⟨found, tally, -⟩ := h.forget_counts key
    simp only [step, tally, finds, misses, drops, refuses, Answer.evicted, found]
    cases c.contains key with
    | false => rfl
    | true => rfl
  | contains key => rfl
  | isEmpty => rfl
  | snapshot => rfl

/-- What one call adds to the number of entries, and what it takes away. -/
theorem Consistent.size_step (h : c.Consistent) (call : Call) :
    (c.step call).2.size + (c.step call).1.evicted.length + (drops (c, call)).toNat =
      c.size + (admits (c, call)).toNat := by
  cases call with
  | get key => exact size_get c key
  | set key value => exact (h.set_counts key value).2
  | forget key =>
    obtain ⟨found, -, size⟩ := h.forget_counts key
    simpa [step, drops, admits, Answer.evicted, found] using size
  | contains key => rfl
  | isEmpty => rfl
  | snapshot => rfl

theorem Coherent.tally_run (h : c.Coherent) (calls : List Call) :
    (c.run calls).tally = {
      hits := c.tally.hits + (c.moments calls).countP finds
      misses := c.tally.misses + (c.moments calls).countP misses
      evictions := c.tally.evictions + (c.evictions calls).length + (c.moments calls).countP drops
      rejections := c.tally.rejections + (c.moments calls).countP refuses } := by
  induction calls generalizing c with
  | nil => rfl
  | cons call calls ih =>
    have next := h.toConsistent.tally_step call
    rw [run_cons, ih (h.step call).1, next]
    simp only [moments, evictions, List.countP_cons, List.length_append, Bool.toNat, Bool.cond_eq_ite,
      Tally.mk.injEq]
    omega

theorem Coherent.size_run (h : c.Coherent) (calls : List Call) :
    (c.run calls).size + (c.evictions calls).length + (c.moments calls).countP drops =
      c.size + (c.moments calls).countP admits := by
  induction calls generalizing c with
  | nil => rfl
  | cons call calls ih =>
    have next := h.toConsistent.size_step call
    have later := ih (h.step call).1
    simp only [Bool.toNat, Bool.cond_eq_ite] at next
    simp only [run_cons, moments, evictions, List.countP_cons, List.length_append]
    omega

/-- Every look-up finds something or nothing. -/
theorem countP_lookups (c : Cache) (calls : List Call) :
    (c.moments calls).countP finds + (c.moments calls).countP misses = calls.countP Call.isGet := by
  induction calls generalizing c with
  | nil => rfl
  | cons call calls ih =>
    have later := ih (c.step call).2
    have one : (finds (c, call)).toNat + (misses (c, call)).toNat = (call.isGet).toNat := by
      cases call with
      | get key =>
        simp only [finds, misses, Call.isGet]
        cases (c.get key).1 with
        | none => rfl
        | some v => rfl
      | set key value => rfl
      | forget key => rfl
      | contains key => rfl
      | isEmpty => rfl
      | snapshot => rfl
    simp only [Bool.toNat, Bool.cond_eq_ite] at one
    simp only [moments, List.countP_cons]
    omega

/-! ## What a snapshot adds up to -/

/-- The number of entries is that of the cached keys, and the bytes in use are those of the
    values under them. -/
theorem Consistent.exists_keys (h : c.Consistent) :
    ∃ keys : Finset String, (∀ key, key ∈ keys ↔ c.contains key = true) ∧ c.size = keys.card ∧
      c.used = ∑ key ∈ keys, (c.value? key).elim 0 ByteArray.size := by
  have distinct : c.index.keys.Nodup := Std.ExtTreeMap.nodup_keys
  refine ⟨c.index.keys.toFinset, fun key => ?_, ?_, ?_⟩
  · rw [List.mem_toFinset, Std.ExtTreeMap.mem_keys, contains, Std.ExtTreeMap.contains_iff_mem]
  · rw [List.toFinset_card_of_nodup distinct, Std.ExtTreeMap.length_keys, size]
  · have values : ∀ e ∈ c.dial.queue, (c.value? e.key).elim 0 ByteArray.size = e.value.size := by
      intro e member
      obtain ⟨i, held⟩ := Dial.mem_queue_iff.mp member
      have found := h.find?_eq_some_iff.mpr ⟨held, rfl⟩
      simp [value?, found]
    rw [List.sum_toFinset _ distinct, (h.keys_perm.map _).sum_eq, List.map_map, h.used_eq_load, load]
    exact congrArg List.sum (List.map_congr_left fun e member => (values e member).symm)

/-! ## The balance -/

/-- The books of a cache that was new before a sequence of calls, as a snapshot shows them
    after it. -/
structure Balanced (c : Cache) (calls : List Call) (s : Snapshot) : Prop where
  hits : s.tally.hits = (c.moments calls).countP finds
  lookups : s.tally.hits + s.tally.misses = calls.countP Call.isGet
  rejections : s.tally.rejections = (c.moments calls).countP refuses
  /-- Who came is still there or was counted when leaving. -/
  entries : s.tally.evictions + s.entries = (c.moments calls).countP admits
  /-- What is counted is each entry that the hand took out and each that was dropped. -/
  evictions : s.tally.evictions = (c.evictions calls).length + (c.moments calls).countP drops
  total : ∃ keys : Finset String, (∀ key, key ∈ keys ↔ (c.run calls).contains key = true) ∧
    s.entries = keys.card ∧ s.used = ∑ key ∈ keys, ((c.run calls).value? key).elim 0 ByteArray.size

/-- After any calls of a new cache its snapshot tells what they did. -/
theorem created_run_balanced {capacity byteLimit : Nat} (created : create capacity byteLimit = .ok c)
    (calls : List Call) : Balanced c calls (c.run calls).snapshot := by
  obtain ⟨positive, rfl⟩ := create_eq_ok_iff.mp created
  have coherent := coherent_empty positive byteLimit
  have tally := coherent.tally_run calls
  have size := coherent.size_run calls
  have counted : (empty capacity byteLimit).tally = {} := rfl
  have bare : (empty capacity byteLimit).size = 0 := rfl
  rw [counted] at tally
  rw [bare] at size
  refine ⟨?_, ?_, ?_, ?_, ?_, (coherent.run calls).1.toConsistent.exists_keys⟩
  · simp [snapshot, tally]
  · simp [snapshot, tally, countP_lookups]
  · simp [snapshot, tally]
  · simp only [snapshot, tally]
    omega
  · simp [snapshot, tally]

/-- A run in which an entry leaves in each of the three ways. -/
theorem created_run_balanced_of_three :
    let calls := [.set "a" ⟨#[1]⟩, .set "b" ⟨#[2]⟩, .get "a", .set "c" ⟨#[3]⟩, .get "b",
      .set "a" ⟨#[4, 4, 4, 4, 4]⟩, .forget "a", .forget "c"]
    create 2 4 = .ok (empty 2 4) ∧ ((empty 2 4).run calls).tally = ⟨1, 1, 3, 1⟩ ∧
      Balanced (empty 2 4) calls ((empty 2 4).run calls).snapshot :=
  have created : create 2 4 = .ok (empty 2 4) := rfl
  ⟨created, by decide +kernel, created_run_balanced created _⟩

end BlobDepot.Cache
