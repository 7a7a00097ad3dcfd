import BlobDepot.Proofs.Cache.Balance

/-! # Loops that end by themselves

A sweep of the hand is cut off after two rounds, and making room after as many sweeps as there
are slots.  Here these loops have no such limits.  `Dial.ExpelsIn` moves the hand until it takes
an entry out, and `FreesIn` lets the hand take entries out until the cache fits; both count
their turns, and a loop that did not end would not be related to anything.

They are deterministic (`Dial.ExpelsIn.unique`, `SetsIn.unique`), so it is enough to show one way
in which they end.  The loops with limits are that way: they always end before they are cut off
(`Dial.expelsIn_of_expel`,
`Consistent.freesIn_of_expelUntil`).  Together this is `loops_end`.
-/

namespace BlobDepot.Cache

/-! ## Loops without limits -/

/-- The hand moves until it takes an entry out.  The number is that of its moves. -/
inductive Dial.ExpelsIn : Dial → Nat → Entry → Dial → Prop where
  | take {d d' : Dial} {e : Entry} (taken : d.tick = (some e, d')) : ExpelsIn d 1 e d'
  | pass {d next d' : Dial} {e : Entry} {moves : Nat} (passed : d.tick = (none, next))
      (later : ExpelsIn next moves e d') : ExpelsIn d (moves + 1) e d'

/-- The hand takes an entry out after so many moves.  It does not move if all slots are on the
    stack. -/
inductive ExpelsIn : Cache → Nat → Option (Eviction × Cache) → Prop where
  | bare {c : Cache} (none_left : c.dial.size = 0) : ExpelsIn c 0 none
  | out {c : Cache} {moves : Nat} {e : Entry} {dial : Dial} (some_left : c.dial.size ≠ 0)
      (expels : c.dial.ExpelsIn moves e dial) :
      ExpelsIn c moves (some (⟨e.key, e.size, c.used - e.size⟩, { c with
        index := c.index.erase e.key
        dial
        used := c.used - e.size
        tally := c.tally.eviction }))

/-- The hand is called until the cache `fits` or the hand finds nothing.  The numbers are those of
    its calls and of all its moves. -/
inductive FreesIn (fits : Cache → Bool) : Cache → Nat → Nat → List Eviction → Cache → Prop where
  | done {c : Cache} (roomy : fits c = true) : FreesIn fits c 0 0 [] c
  | stuck {c : Cache} {moves : Nat} (full : fits c = false) (nothing : c.ExpelsIn moves none) :
      FreesIn fits c 1 moves [] c
  | next {c rest last : Cache} {out : Eviction} {evicted : List Eviction} {calls moves more : Nat}
      (full : fits c = false) (left : c.ExpelsIn moves (some (out, rest)))
      (later : FreesIn fits rest calls more evicted last) :
      FreesIn fits c (calls + 1) (moves + more) (out :: evicted) last

/-- A value is offered, and room is made for it without limits. -/
inductive SetsIn (c : Cache) (key : String) (value : ByteArray) : Nat → Nat → Placement → Prop where
  | reject (large : c.byteLimit < value.size) : SetsIn c key value 0 0 (c.reject key)
  | overwrite {i calls moves : Nat} {evicted : List Eviction} {last : Cache}
      (small : value.size ≤ c.byteLimit) (listed : c.index[key]? = some i)
      (frees : (c.replace i value).FreesIn withinBytes calls moves evicted last) :
      SetsIn c key value calls moves ⟨.stored, evicted, last⟩
  | add {i calls moves : Nat} {evicted : List Eviction} {roomy : Cache} {dial : Dial}
      (small : value.size ≤ c.byteLimit) (unlisted : c.index[key]? = none)
      (frees : c.FreesIn (hasRoomFor value.size) calls moves evicted roomy)
      (placed : roomy.dial.place (.fresh key value) = some (i, dial)) :
      SetsIn c key value calls moves ⟨.stored, evicted, { roomy with
        index := roomy.index.insert key i
        dial
        used := roomy.used + value.size }⟩
  | crowded {calls moves : Nat} {evicted : List Eviction} {roomy : Cache}
      (small : value.size ≤ c.byteLimit) (unlisted : c.index[key]? = none)
      (frees : c.FreesIn (hasRoomFor value.size) calls moves evicted roomy)
      (unplaced : roomy.dial.place (.fresh key value) = none) :
      SetsIn c key value calls moves ⟨.rejected, evicted, roomy⟩

variable {c : Cache} {key : String} {value : ByteArray} {fits : Cache → Bool}

/-! ## One way only -/

theorem Dial.ExpelsIn.unique {d d' d'' : Dial} {e e' : Entry} {moves moves' : Nat}
    (h : d.ExpelsIn moves e d') (h' : d.ExpelsIn moves' e' d'') :
    moves' = moves ∧ e' = e ∧ d'' = d' := by
  induction h generalizing moves' with
  | take taken =>
    cases h' with
    | take taken' =>
      rw [taken] at taken'
      cases taken'
      exact ⟨rfl, rfl, rfl⟩
    | pass passed _ =>
      rw [taken] at passed
      cases passed
  | pass passed _ ih =>
    cases h' with
    | take taken =>
      rw [passed] at taken
      cases taken
    | pass passed' later =>
      rw [passed] at passed'
      cases passed'
      obtain ⟨rfl, same⟩ := ih later
      exact ⟨rfl, same⟩

theorem ExpelsIn.unique {result result' : Option (Eviction × Cache)} {moves moves' : Nat}
    (h : c.ExpelsIn moves result) (h' : c.ExpelsIn moves' result') :
    moves' = moves ∧ result' = result := by
  cases h with
  | bare none_left =>
    cases h' with
    | bare _ => exact ⟨rfl, rfl⟩
    | out some_left _ => exact absurd none_left some_left
  | out some_left expels =>
    cases h' with
    | bare none_left => exact absurd none_left some_left
    | out _ expels' =>
      obtain ⟨rfl, rfl, rfl⟩ := expels.unique expels'
      exact ⟨rfl, rfl⟩

theorem FreesIn.unique {calls calls' moves moves' : Nat} {evicted evicted' : List Eviction}
    {last last' : Cache} (h : c.FreesIn fits calls moves evicted last)
    (h' : c.FreesIn fits calls' moves' evicted' last') :
    calls' = calls ∧ moves' = moves ∧ evicted' = evicted ∧ last' = last := by
  induction h generalizing calls' moves' evicted' with
  | done roomy =>
    cases h' with
    | done _ => exact ⟨rfl, rfl, rfl, rfl⟩
    | stuck full _ | next full _ _ =>
      rw [roomy] at full
      cases full
  | stuck full nothing =>
    cases h' with
    | done roomy =>
      rw [full] at roomy
      cases roomy
    | stuck _ nothing' =>
      obtain ⟨rfl, -⟩ := nothing.unique nothing'
      exact ⟨rfl, rfl, rfl, rfl⟩
    | next _ left _ => cases (nothing.unique left).2
  | next full left _ ih =>
    cases h' with
    | done roomy =>
      rw [full] at roomy
      cases roomy
    | stuck _ nothing => cases (left.unique nothing).2
    | next _ left' later' =>
      obtain ⟨rfl, same⟩ := left.unique left'
      cases same
      obtain ⟨rfl, rfl, rfl, rfl⟩ := ih later'
      exact ⟨rfl, rfl, rfl, rfl⟩

theorem SetsIn.unique {p p' : Placement} {calls calls' moves moves' : Nat}
    (h : c.SetsIn key value calls moves p) (h' : c.SetsIn key value calls' moves' p') :
    calls' = calls ∧ moves' = moves ∧ p' = p := by
  cases h with
  | reject large =>
    cases h' with
    | reject _ => exact ⟨rfl, rfl, rfl⟩
    | overwrite small _ _ | add small _ _ _ | crowded small _ _ _ =>
      exact absurd large (Nat.not_lt.mpr small)
  | overwrite small listed frees =>
    cases h' with
    | reject large => exact absurd large (Nat.not_lt.mpr small)
    | overwrite _ listed' frees' =>
      rw [listed] at listed'
      cases listed'
      obtain ⟨rfl, rfl, rfl, rfl⟩ := frees.unique frees'
      exact ⟨rfl, rfl, rfl⟩
    | add _ unlisted _ _ | crowded _ unlisted _ _ =>
      rw [listed] at unlisted
      cases unlisted
  | add small unlisted frees placed =>
    cases h' with
    | reject large => exact absurd large (Nat.not_lt.mpr small)
    | overwrite _ listed _ =>
      rw [unlisted] at listed
      cases listed
    | add _ _ frees' placed' =>
      obtain ⟨rfl, rfl, rfl, rfl⟩ := frees.unique frees'
      rw [placed] at placed'
      cases placed'
      exact ⟨rfl, rfl, rfl⟩
    | crowded _ _ frees' unplaced =>
      obtain ⟨rfl, rfl, rfl, rfl⟩ := frees.unique frees'
      rw [placed] at unplaced
      cases unplaced
  | crowded small unlisted frees unplaced =>
    cases h' with
    | reject large => exact absurd large (Nat.not_lt.mpr small)
    | overwrite _ listed _ =>
      rw [unlisted] at listed
      cases listed
    | add _ _ frees' placed =>
      obtain ⟨rfl, rfl, rfl, rfl⟩ := frees.unique frees'
      rw [unplaced] at placed
      cases placed
    | crowded _ _ frees' _ =>
      obtain ⟨rfl, rfl, rfl, rfl⟩ := frees.unique frees'
      exact ⟨rfl, rfl, rfl⟩

/-! ## The hand -/

namespace Dial

variable {d d' : Dial} {e : Entry} {i : Nat}

theorem InOrder.size_ne_zero (ordered : d.InOrder) (held : d.occupant? i = some e) : d.size ≠ 0 := by
  have counted : 1 ≤ d.count := le_weigh (f := fun _ => 1) held
  have total := ordered.count_add_free
  rw [size]
  omega

theorem expelsIn_of_sweep {moves : Nat} (swept : d.sweep moves = (some e, d')) :
    ∃ spent, d.ExpelsIn spent e d' ∧ spent ≤ moves := by
  induction moves generalizing d with
  | zero => cases swept
  | succ moves ih =>
    rw [sweep] at swept
    split at swept
    · rename_i taken
      cases swept
      exact ⟨1, .take taken, by omega⟩
    · rename_i passed
      obtain ⟨spent, later, within⟩ := ih swept
      exact ⟨spent + 1, .pass passed later, by omega⟩

/-- A sweep without limits ends within two rounds if it is for an entry that `expel` finds. -/
theorem expelsIn_of_expel (found : d.expel = some (e, d')) :
    ∃ moves, d.ExpelsIn moves e d' ∧ moves ≤ 2 * d.slots.size :=
  expelsIn_of_sweep (sweep_of_expel found)

end Dial

/-! ## Making room -/

theorem Consistent.expelsIn {rest : Cache} {out : Eviction} (h : c.Consistent)
    (left : c.expel = some (out, rest)) :
    ∃ moves, c.ExpelsIn moves (some (out, rest)) ∧ moves ≤ 2 * c.capacity := by
  obtain ⟨⟨e, dial⟩, found, made⟩ := Option.map_eq_some_iff.mp left
  cases made
  obtain ⟨i, content, -⟩ := (Dial.expels_of_expel found).content?
  obtain ⟨e', held, -⟩ := Dial.content?_eq_some_iff.mp content
  obtain ⟨moves, expels, within⟩ := Dial.expelsIn_of_expel found
  rw [h.slots_size] at within
  exact ⟨moves, .out (h.inOrder.size_ne_zero held) expels, within⟩

/-- A loop that leads to a cache that fits calls the hand once for each entry that leaves. -/
theorem Consistent.freesIn_of_expelUntil {rounds : Nat} {evicted : List Eviction} {last : Cache}
    (h : c.Consistent) (made : expelUntil fits rounds c = (evicted, last)) (roomy : fits last = true) :
    ∃ moves, c.FreesIn fits evicted.length moves evicted last ∧
      moves ≤ evicted.length * (2 * c.capacity) := by
  induction rounds generalizing c evicted with
  | zero =>
    cases made
    exact ⟨0, .done roomy, Nat.zero_le _⟩
  | succ rounds ih =>
    obtain stop | ⟨full, out, rest, left⟩ := stop_or_expel fits c
    · rw [expelUntil_stop stop] at made
      cases made
      exact ⟨0, .done roomy, Nat.zero_le _⟩
    · rw [expelUntil_next full left] at made
      cases made
      obtain ⟨moves, expels, within⟩ := h.expelsIn left
      obtain ⟨more, later, within'⟩ := ih (h.expel left) rfl
      refine ⟨moves + more, .next full expels later, ?_⟩
      rw [(sameLimits_expel left).1] at within'
      rw [List.length_cons, Nat.add_mul, Nat.one_mul]
      omega

/-! ## Offering a value -/

/-- A value that is offered is stored or refused as it is without limits. -/
theorem Consistent.setsIn (h : c.Consistent) (key : String) (value : ByteArray) :
    ∃ moves, c.SetsIn key value (c.set key value).evicted.length moves (c.set key value) ∧
      moves ≤ (c.set key value).evicted.length * (2 * c.capacity) := by
  rw [set]
  by_cases large : c.byteLimit < value.size
  · rw [if_pos large]
    exact ⟨0, .reject large, Nat.zero_le _⟩
  · rw [if_neg large]
    have small := Nat.not_lt.mp large
    cases listed : c.index[key]? with
    | some i =>
      have replaced := h.replace i value
      obtain ⟨moves, frees, within⟩ := replaced.freesIn_of_expelUntil rfl replaced.fits_withinBytes
      rw [(sameLimits_replace c i value).1] at within
      exact ⟨moves, .overwrite small listed frees, within⟩
    | none =>
      obtain ⟨i, dial, placed, added⟩ := h.add_eq key small
      obtain ⟨moves, frees, within⟩ := h.freesIn_of_expelUntil rfl (h.fits_hasRoomFor small)
      simp only [added]
      exact ⟨moves, .add small listed frees placed, within⟩

/-- All that leave when a value is offered were there before. -/
theorem Consistent.leaving_le_size (h : c.Consistent) (key : String) (value : ByteArray) :
    (c.set key value).evicted.length + (drops (c, .set key value)).toNat ≤ c.size := by
  rw [drops, set]
  by_cases large : c.byteLimit < value.size
  · have counts := (h.reject_counts key).2
    have refused : (c.reject key).evicted = [] ∧ (c.reject key).verdict = .rejected := ⟨rfl, rfl⟩
    simp only [if_pos large, refused, List.length_nil, decide_true, Bool.and_true]
    omega
  · rw [if_neg large]
    cases listed : c.index[key]? with
    | some i =>
      have counts := (h.overwrite_counts i value).2
      simp only [overwrite, reduceCtorEq, decide_false, Bool.and_false, Bool.toNat_false] at counts ⊢
      omega
    | none =>
      obtain ⟨i, dial, -, added⟩ := h.add_eq key (Nat.not_lt.mp large)
      have counts := (h.makeRoom_counts (hasRoomFor value.size)).2
      simp only [added, reduceCtorEq, decide_false, Bool.and_false, Bool.toNat_false]
      omega

/-- Where an entry is, the hand takes one out by itself, within two rounds, however it stands and
    whatever bits are set.  Offering a value to a cache ends by itself as well: the hand is called
    once for each entry that leaves, and no more entries leave than there were, whether by the
    hand or since an older value of the key is dropped.  The loops with limits lead to the same. -/
theorem loops_end :
    (∀ d : Dial, d.InOrder → (∃ i e, d.occupant? i = some e) →
      d.size ≠ 0 ∧ (∃ moves e d', d.ExpelsIn moves e d') ∧
      ∀ moves e d', d.ExpelsIn moves e d' → moves ≤ 2 * d.slots.size ∧ d.expel = some (e, d')) ∧
    ∀ c : Cache, c.Reachable → ∀ key value,
      (∃ calls moves p, c.SetsIn key value calls moves p) ∧
      ∀ calls moves p, c.SetsIn key value calls moves p →
        p = c.set key value ∧ calls = p.evicted.length ∧ calls ≤ c.size ∧
        moves ≤ calls * (2 * c.capacity) ∧ p.cache.tally.evictions ≤ c.tally.evictions + c.size := by
  constructor
  · rintro d ordered ⟨i, e, held⟩
    obtain ⟨_, _, _, found, -⟩ := Dial.expel_of_occupied ordered held
    obtain ⟨moves, expels, within⟩ := Dial.expelsIn_of_expel found
    refine ⟨ordered.size_ne_zero held, ⟨_, _, _, expels⟩, fun moves' e' d' expels' => ?_⟩
    obtain ⟨rfl, rfl, rfl⟩ := expels.unique expels'
    exact ⟨within, found⟩
  · intro c reachable key value
    have consistent := reachable.coherent.toConsistent
    obtain ⟨moves, sets, within⟩ := consistent.setsIn key value
    refine ⟨⟨_, _, _, sets⟩, fun calls' moves' p sets' => ?_⟩
    obtain ⟨rfl, rfl, rfl⟩ := sets.unique sets'
    have fewer := consistent.leaving_le_size key value
    have counted : (c.set key value).cache.tally.evictions = c.tally.evictions +
        (c.set key value).evicted.length + (drops (c, .set key value)).toNat :=
      congrArg Tally.evictions (consistent.set_counts key value).1
    exact ⟨rfl, rfl, by omega, within, by omega⟩

/-- The only entry stands right behind the hand and has its bit set, so the hand goes round twice.
    A value that takes up all bytes costs all three entries their place. -/
theorem loops_end_of_last_slot :
    let d : Dial := ⟨#[some ⟨"a", ⟨#[1]⟩, 1, true⟩, none, none], [1, 2], 1⟩
    let c := (empty 3 6).run
      [.set "a" ⟨#[1, 1]⟩, .set "b" ⟨#[2, 2]⟩, .set "c" ⟨#[3, 3]⟩, .get "b"]
    let full : ByteArray := ⟨#[4, 4, 4, 4, 4, 4]⟩
    (d.InOrder ∧ (∃ i e, d.occupant? i = some e) ∧
      (d.sweep 5).1 = none ∧
      d.size ≠ 0 ∧ (∃ moves e d', d.ExpelsIn moves e d') ∧
      ∀ moves e d', d.ExpelsIn moves e d' → moves ≤ 2 * 3 ∧ d.expel = some (e, d')) ∧
    c.Reachable ∧ c.size = 3 ∧ (c.set "d" full).evicted.length = 3 ∧
      (∃ calls moves p, c.SetsIn "d" full calls moves p) ∧
      ∀ calls moves p, c.SetsIn "d" full calls moves p →
        p = c.set "d" full ∧ calls = p.evicted.length ∧ calls ≤ c.size ∧
        moves ≤ calls * (2 * c.capacity) ∧
        p.cache.tally.evictions ≤ c.tally.evictions + c.size := by
  intro d c full
  have ordered : d.InOrder := by
    refine ⟨fun i => ?_, by decide, by decide⟩
    match i with
    | 0 | 1 | 2 => simp [d, Dial.occupant?]
    | i + 3 => simp [d]
  have held : ∃ i e, d.occupant? i = some e := ⟨0, _, rfl⟩
  have reachable : c.Reachable := ⟨3, 6, _, by decide, rfl⟩
  exact ⟨⟨ordered, held, by decide +kernel, loops_end.1 d ordered held⟩, reachable,
    by decide +kernel, by decide +kernel, loops_end.2 c reachable "d" full⟩

end BlobDepot.Cache
