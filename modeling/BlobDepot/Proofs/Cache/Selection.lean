import Mathlib.Logic.Function.Iterate
import BlobDepot.Proofs.Cache.Sweep

/-! # Which entry the hand takes

Moves that pass their slots have a closed form.  After some of them, no more than there are
slots, the hand stands so many slots further on, and the entries that it has come past have
their bits clear (`hand_passes`, `occupant?_passes`).  A sweep is such moves as long as the
bits on the way are set (`sweep_passes`).

So the hand takes the nearest entry with a clear bit (`sweep_to_clear`).  If all bits are set,
it first goes round once, which brings it back to where it was with all bits clear, and then
takes the nearest entry (`sweep_around`).  Either way it finds an entry if there is one
(`expel_of_occupied`).
-/

namespace BlobDepot.Cache.Dial

/-- Slot `i` holds the entry `e`, and of the slots that hold an entry with `P` it is the first
    to which the hand comes. -/
structure Nearest (d : Dial) (P : Entry → Prop) (i : Nat) (e : Entry) : Prop where
  held : d.occupant? i = some e
  fits : P e
  first : ∀ j x, d.occupant? j = some x → P x → d.ahead i ≤ d.ahead j

/-- Slot `i` is empty, on top of the stack and the last that the hand has come past.  The bits
    of the other entries that were `passed` are clear, and nothing else is changed. -/
structure Emptied (i : Nat) (passed : Nat → Prop) (d d' : Dial) : Prop where
  size_slots : d'.slots.size = d.slots.size
  free : d'.free = i :: d.free
  hand : d'.hand = (i + 1) % d.slots.size
  vacant : d'.occupant? i = none
  cleared : ∀ j, j ≠ i → passed j → d'.occupant? j = (d.occupant? j).map Entry.unmark
  kept : ∀ j, j ≠ i → ¬ passed j → d'.occupant? j = d.occupant? j

/-- All entries have their bits set. -/
def AllReferenced (d : Dial) : Prop :=
  ∀ i e, d.occupant? i = some e → e.referenced = true

variable {d d' : Dial} {P : Entry → Prop} {i j moves : Nat} {e : Entry}

/-! ## Slots seen from the hand -/

theorem ahead_add (ordered : d.InOrder) (near : moves < d.slots.size) :
    d.ahead ((d.hand + moves) % d.slots.size) = moves := by
  have bound := ordered.hand_lt
  rw [ahead]
  by_cases round : d.hand + moves < d.slots.size
  · rw [Nat.mod_eq_of_lt round]
    split <;> omega
  · have wrapped : (d.hand + moves) % d.slots.size = d.hand + moves - d.slots.size := by
      rw [Nat.mod_eq_sub_mod (Nat.not_lt.mp round), Nat.mod_eq_of_lt (by omega)]
    rw [wrapped]
    split <;> omega

theorem hand_add_ahead (ordered : d.InOrder) (inside : i < d.slots.size) :
    (d.hand + d.ahead i) % d.slots.size = i := by
  have bound := ordered.hand_lt
  rw [ahead]
  split
  · rw [Nat.add_sub_cancel' ‹_›, Nat.mod_eq_of_lt inside]
  · have round : d.hand + (i + d.slots.size - d.hand) = i + d.slots.size := by omega
    rw [round, Nat.add_mod_right, Nat.mod_eq_of_lt inside]

theorem exists_nearest (held : d.occupant? i = some e) (fits : P e) :
    ∃ i e, d.Nearest P i e := by
  classical
  have some_distance : ∃ distance i e, d.occupant? i = some e ∧ P e ∧ d.ahead i = distance :=
    ⟨_, i, e, held, fits, rfl⟩
  obtain ⟨i, e, held, fits, least⟩ := Nat.find_spec some_distance
  refine ⟨i, e, held, fits, fun j x held' fits' => ?_⟩
  rw [least]
  exact Nat.find_min' some_distance ⟨j, x, held', fits', rfl⟩

/-- A dial is what its slots hold, its stack and its hand. -/
theorem eq_of_occupant? (sizes : d'.slots.size = d.slots.size)
    (same : ∀ i, d'.occupant? i = d.occupant? i) (frees : d'.free = d.free)
    (hands : d'.hand = d.hand) : d' = d := by
  have slots : d'.slots = d.slots := by
    apply Array.ext sizes
    intro i inside inside'
    have here := same i
    simpa [occupant?, inside, inside'] using here
  cases d
  cases d'
  simp_all

/-! ## Moves that pass -/

@[simp] theorem free_pass (d : Dial) : d.pass.free = d.free := rfl

theorem size_slots_passes (d : Dial) (moves : Nat) : (pass^[moves] d).slots.size = d.slots.size := by
  induction moves with
  | zero => rfl
  | succ moves ih => rw [Function.iterate_succ_apply', size_slots_pass, ih]

theorem free_passes (d : Dial) (moves : Nat) : (pass^[moves] d).free = d.free := by
  induction moves with
  | zero => rfl
  | succ moves ih => rw [Function.iterate_succ_apply', free_pass, ih]

theorem InOrder.passes (ordered : d.InOrder) (moves : Nat) : (Dial.pass^[moves] d).InOrder := by
  induction moves with
  | zero => exact ordered
  | succ moves ih =>
    rw [Function.iterate_succ_apply']
    exact ih.pass

theorem hand_passes (ordered : d.InOrder) (moves : Nat) :
    (pass^[moves] d).hand = (d.hand + moves) % d.slots.size := by
  induction moves with
  | zero => exact (Nat.mod_eq_of_lt ordered.hand_lt).symm
  | succ moves ih =>
    rw [Function.iterate_succ_apply', hand_pass, ih, size_slots_passes, Nat.mod_add_mod, Nat.add_assoc]

/-- Within one round the hand clears the bits of the entries that it comes past. -/
theorem occupant?_passes (ordered : d.InOrder) (within : moves ≤ d.slots.size) (j : Nat) :
    (pass^[moves] d).occupant? j =
      if d.ahead j < moves then (d.occupant? j).map Entry.unmark else d.occupant? j := by
  cases held : d.occupant? j with
  | none =>
    -- An empty slot stays empty.
    rw [Option.map_none, ite_self]
    induction moves with
    | zero => exact held
    | succ moves ih =>
      rw [Function.iterate_succ_apply', occupant?_pass, ih (by omega), Option.map_none, ite_self]
  | some e =>
    have inside := lt_of_occupant? held
    induction moves with
    | zero => simpa using held
    | succ moves ih =>
      rw [Function.iterate_succ_apply', occupant?_pass, hand_passes ordered, ih (by omega)]
      by_cases here : (d.hand + moves) % d.slots.size = j
      · -- This move is the first that comes past the slot.
        have distance : d.ahead j = moves := here ▸ ahead_add ordered within
        simp [here, distance]
      · have apart : d.ahead j ≠ moves := by
          intro same
          rw [← same] at here
          exact here (hand_add_ahead ordered inside)
        rw [if_neg here]
        by_cases before : d.ahead j < moves
        · rw [if_pos before, if_pos (by omega)]
        · rw [if_neg before, if_neg (by omega)]

/-- As long as the bits on its way are set, the hand passes. -/
theorem sweep_passes (ordered : d.InOrder) (within : moves ≤ d.slots.size)
    (marked : ∀ j x, d.occupant? j = some x → d.ahead j < moves → x.referenced = true)
    (more : Nat) : d.sweep (moves + more) = (pass^[moves] d).sweep more := by
  induction moves generalizing more with
  | zero => simp
  | succ moves ih =>
    have earlier : d.sweep (moves + (more + 1)) = (pass^[moves] d).sweep (more + 1) :=
      ih (by omega) (fun j x held before => marked j x held (by omega)) (more + 1)
    have unripe : ∀ x, ¬ (pass^[moves] d).Ripe x := by
      intro x ripe
      have distance := ahead_add ordered within
      obtain ⟨held, clear⟩ := ripe
      -- The entry under the hand has not been passed yet.
      rw [hand_passes ordered, occupant?_passes ordered (by omega), distance, if_neg (Nat.lt_irrefl _)] at held
      rw [marked _ x held (by omega)] at clear
      cases clear
    rw [Nat.add_right_comm, Nat.add_assoc, earlier, sweep_of_unripe unripe, Function.iterate_succ_apply']

/-- One round brings the hand back and clears every bit. -/
theorem passes_round (ordered : d.InOrder) :
    (pass^[d.slots.size] d).hand = d.hand ∧
      ∀ j, (pass^[d.slots.size] d).occupant? j = (d.occupant? j).map Entry.unmark := by
  refine ⟨?_, fun j => ?_⟩
  · rw [hand_passes ordered, Nat.add_mod_right, Nat.mod_eq_of_lt ordered.hand_lt]
  · rw [occupant?_passes ordered (Nat.le_refl _)]
    cases held : d.occupant? j with
    | none => simp
    | some e => rw [if_pos (ahead_lt ordered (lt_of_occupant? held))]

/-! ## The entry that is taken -/

/-- The hand comes to the nearest entry with a clear bit and takes it out. -/
theorem sweep_to_clear (ordered : d.InOrder) (nearest : d.Nearest (·.referenced = false) i e)
    (more : Nat) :
    ∃ d', d.sweep (d.ahead i + (more + 1)) = (some e, d') ∧
      Emptied i (fun j => d.ahead j < d.ahead i) d d' := by
  have inside := lt_of_occupant? nearest.held
  have near := ahead_lt ordered inside
  have come : (pass^[d.ahead i] d).hand = i := by
    rw [hand_passes ordered, hand_add_ahead ordered inside]
  have marked : ∀ j x, d.occupant? j = some x → d.ahead j < d.ahead i → x.referenced = true := by
    intro j x held before
    by_contra clear
    have later := nearest.first j x held (by simpa using clear)
    omega
  have slots := occupant?_passes ordered (Nat.le_of_lt near)
  have ripe : (pass^[d.ahead i] d).Ripe e := by
    refine ⟨?_, nearest.fits⟩
    rw [come, slots, if_neg (Nat.lt_irrefl _), nearest.held]
  refine ⟨(pass^[d.ahead i] d).takeOut, ?_, ?_⟩
  · rw [sweep_passes ordered (Nat.le_of_lt near) marked, sweep_of_ripe ripe]
  · have taken := fun j => (occupant?_vacate (vacate_turned ripe) j).2
    simp only [come, occupant?_turned, slots] at taken
    constructor
    · rw [size_slots_takeOut, size_slots_passes]
    · show (pass^[d.ahead i] d).hand :: (pass^[d.ahead i] d).free = i :: d.free
      rw [come, free_passes]
    · show ((pass^[d.ahead i] d).hand + 1) % (pass^[d.ahead i] d).slots.size = _
      rw [come, size_slots_passes]
    · rw [taken, if_pos rfl]
    · intro j other passed
      rw [taken, if_neg (Ne.symm other), if_pos passed]
    · intro j other unpassed
      rw [taken, if_neg (Ne.symm other), if_neg unpassed]

/-- If all bits are set, the hand goes round once and then takes the nearest entry out. -/
theorem sweep_around (ordered : d.InOrder) (all : d.AllReferenced)
    (nearest : d.Nearest (fun _ => True) i e) (more : Nat) :
    ∃ d', d.sweep (d.slots.size + (d.ahead i + (more + 1))) = (some e.unmark, d') ∧
      Emptied i (fun _ => True) d d' := by
  obtain ⟨hand, slots⟩ := passes_round ordered
  have sizes := size_slots_passes d d.slots.size
  have distance : ∀ j, (pass^[d.slots.size] d).ahead j = d.ahead j := by
    intro j
    rw [ahead, ahead, hand, sizes]
  have nearest' : (pass^[d.slots.size] d).Nearest (·.referenced = false) i e.unmark := by
    refine ⟨by rw [slots, nearest.held, Option.map_some], rfl, fun j x held _ => ?_⟩
    rw [slots] at held
    obtain ⟨x', held', -⟩ := Option.map_eq_some_iff.mp held
    rw [distance, distance]
    exact nearest.first j x' held' trivial
  obtain ⟨d', swept, emptied⟩ := sweep_to_clear (ordered.passes d.slots.size) nearest' more
  refine ⟨d', ?_, ?_⟩
  · rw [sweep_passes ordered (Nat.le_refl _) (fun j x held _ => all j x held), ← distance]
    exact swept
  · constructor
    · rw [emptied.size_slots, sizes]
    · rw [emptied.free, free_passes]
    · rw [emptied.hand, sizes]
    · exact emptied.vacant
    · intro j other _
      by_cases passed : (pass^[d.slots.size] d).ahead j < (pass^[d.slots.size] d).ahead i
      · -- The bit was clear already when the hand came past for the second time.
        rw [emptied.cleared j other passed, slots, Option.map_map]
        rfl
      · rw [emptied.kept j other passed, slots]
    · intro j _ unpassed
      exact absurd trivial unpassed

/-- A sweep over empty slots brings the hand back to where it was. -/
theorem sweep_of_vacant (ordered : d.InOrder) (vacant : ∀ i, d.occupant? i = none) :
    d.sweep (2 * d.slots.size) = (none, d) := by
  obtain ⟨hand, slots⟩ := passes_round ordered
  have back : pass^[d.slots.size] d = d := by
    refine eq_of_occupant? (size_slots_passes d _) (fun i => ?_) (free_passes d _) hand
    rw [slots, vacant, Option.map_none]
  have round : ∀ more, d.sweep (d.slots.size + more) = d.sweep more := by
    intro more
    have passed := sweep_passes ordered (Nat.le_refl _) (fun j x held _ => by simp [vacant] at held) more
    rwa [back] at passed
  calc d.sweep (2 * d.slots.size)
      = d.sweep (d.slots.size + (d.slots.size + 0)) := by rw [Nat.two_mul, Nat.add_zero]
    _ = d.sweep 0 := by rw [round, round]
    _ = (none, d) := rfl

/-- Where entries are, the hand takes one of them out. -/
theorem expel_of_occupied (ordered : d.InOrder) (held : d.occupant? i = some e) :
    ∃ i e d', d.expel = some (e.unmark, d') ∧
      (d.Nearest (·.referenced = false) i e ∧ Emptied i (fun j => d.ahead j < d.ahead i) d d' ∨
        d.AllReferenced ∧ d.Nearest (fun _ => True) i e ∧ Emptied i (fun _ => True) d d') := by
  by_cases all : d.AllReferenced
  · obtain ⟨i, e, nearest⟩ := exists_nearest (P := fun _ => True) held trivial
    have near := ahead_lt ordered (lt_of_occupant? nearest.held)
    obtain ⟨d', swept, emptied⟩ :=
      sweep_around ordered all nearest (d.slots.size - (d.ahead i + 1))
    refine ⟨i, e, d', ?_, .inr ⟨all, nearest, emptied⟩⟩
    have moves : d.slots.size + (d.ahead i + (d.slots.size - (d.ahead i + 1) + 1)) =
        2 * d.slots.size := by omega
    rw [moves] at swept
    rw [expel, swept]
  · rw [AllReferenced] at all
    push Not at all
    obtain ⟨j, x, held', clear⟩ := all
    obtain ⟨i, e, nearest⟩ :=
      exists_nearest (P := (·.referenced = false)) held' (by simpa using clear)
    have near := ahead_lt ordered (lt_of_occupant? nearest.held)
    obtain ⟨d', swept, emptied⟩ :=
      sweep_to_clear ordered nearest (2 * d.slots.size - (d.ahead i + 1))
    refine ⟨i, e, d', ?_, .inl ⟨nearest, emptied⟩⟩
    have moves : d.ahead i + (2 * d.slots.size - (d.ahead i + 1) + 1) = 2 * d.slots.size := by omega
    rw [moves] at swept
    rw [expel, swept, Entry.unmark_of_clear nearest.fits]

/-- The hand takes the nearest entry with a clear bit out, and on its way there it clears the
    bits of the entries before it.  If all bits are set, it takes the nearest entry out and
    clears all other bits.  Nothing else changes but that the emptied slot comes on top of
    the stack and the hand behind it.  Without entries nothing is taken out, and nothing
    changes. -/
theorem expel_takes_nearest (ordered : d.InOrder) :
    ((∃ i e, d.occupant? i = some e) →
      ∃ i e d', d.expel = some (e.unmark, d') ∧
        (d.Nearest (·.referenced = false) i e ∧ Emptied i (fun j => d.ahead j < d.ahead i) d d' ∨
          d.AllReferenced ∧ d.Nearest (fun _ => True) i e ∧ Emptied i (fun _ => True) d d')) ∧
      ((∀ i, d.occupant? i = none) → d.expel = none ∧ d.sweep (2 * d.slots.size) = (none, d)) := by
  refine ⟨fun ⟨_, _, held⟩ => expel_of_occupied ordered held, fun vacant => ?_⟩
  have swept := sweep_of_vacant ordered vacant
  exact ⟨by rw [expel, swept], swept⟩

/-- The hand clears one bit in the last slot and one in the first, comes past an empty slot, and
    takes out what stands right behind where it was. -/
theorem expel_takes_nearest_of_four :
    let d : Dial := ⟨#[some ⟨"a", ⟨#[1]⟩, 1, true⟩, none, some ⟨"b", ⟨#[2, 2]⟩, 2, false⟩,
      some ⟨"c", ⟨#[3]⟩, 1, true⟩], [1], 3⟩
    d.InOrder ∧ (∃ i e, d.occupant? i = some e) ∧
      (∃ i e d', d.expel = some (e.unmark, d') ∧
        (d.Nearest (·.referenced = false) i e ∧ Emptied i (fun j => d.ahead j < d.ahead i) d d' ∨
          d.AllReferenced ∧ d.Nearest (fun _ => True) i e ∧ Emptied i (fun _ => True) d d')) ∧
      d.expel.map Prod.fst = some ⟨"b", ⟨#[2, 2]⟩, 2, false⟩ := by
  intro d
  have ordered : d.InOrder := by
    refine ⟨fun i => ?_, by decide, by decide⟩
    match i with
    | 0 | 1 | 2 | 3 => simp [d, occupant?]
    | i + 4 => simp [d]
  have held : ∃ i e, d.occupant? i = some e := ⟨0, _, rfl⟩
  exact ⟨ordered, held, (expel_takes_nearest ordered).1 held, by decide +kernel⟩

end BlobDepot.Cache.Dial
