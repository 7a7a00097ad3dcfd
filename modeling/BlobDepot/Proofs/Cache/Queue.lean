import Mathlib.Algebra.BigOperators.Fin
import Mathlib.Data.List.ReduceOption
import Mathlib.Data.List.Rotate
import BlobDepot.Proofs.Cache.Sweep

/-! # The queue before the hand

The hand goes round and clears bits on its way, so who leaves next depends on where it stands
and on which bits are set.  Both together come to a simple order, `Dial.queue`: first the
entries whose bit is clear, then those whose bit is set, either of them in the order in which
the hand comes to their slots.

A move that only passes a slot puts the entry there, whose bit it clears, behind all others
with a clear bit.  That is where it stood in the queue before, so bits aside the queue stays
the same (`queue_pass`).  A move that takes an entry out takes the first of the queue
(`queue_takeOut`).  A sweep is made of such moves, so it takes the first of the queue as well
and leaves the others in their order (`Expels.queue`).
-/

namespace BlobDepot.Cache.Dial

/-- The entries in the order in which the hand comes to their slots. -/
def circuit (d : Dial) : List Entry :=
  (d.slots.toList.rotate d.hand).reduceOption

/-- Entries whose bit is clear before those whose bit is set, each of them in their order. -/
def clearFirst (entries : List Entry) : List Entry :=
  entries.filter (!·.referenced) ++ entries.filter (·.referenced)

/-- The entries in the order in which the hand takes them out, one sweep after the other. -/
def queue (d : Dial) : List Entry :=
  clearFirst d.circuit

variable {d d' : Dial} {e : Entry}

/-! ## The circuit -/

/-- With one move the slot under the hand comes from the start of the circuit to its end. -/
theorem exists_circuit (inside : d.hand < d.slots.size) :
    ∃ others, d.circuit = (d.occupant? d.hand).toList ++ others ∧
      ∀ (slot : Option Entry) (free : List Nat),
        circuit ⟨d.slots.setIfInBounds d.hand slot, free, (d.hand + 1) % d.slots.size⟩ =
          others ++ slot.toList := by
  obtain ⟨⟨slots⟩, free, hand⟩ := d
  simp only [List.size_toArray] at inside
  have single : ∀ slot : Option Entry, [slot].reduceOption = slot.toList := fun slot => by
    cases slot <;> rfl
  -- The hand cuts the slots into those before it, the one under it and those behind it.
  refine ⟨(slots.drop (hand + 1) ++ slots.take hand).reduceOption, ?_, fun slot free => ?_⟩
  · have under : occupant? ⟨⟨slots⟩, free, hand⟩ hand = slots[hand] := by
      simp [occupant?, inside]
    rw [circuit, List.rotate_eq_drop_append_take (Nat.le_of_lt inside),
      List.drop_eq_getElem_cons inside, under, ← single, ← List.reduceOption_append]
    rfl
  · have length : (slots.set hand slot).length = slots.length := List.length_set
    rw [circuit, ← single, ← List.reduceOption_append]
    simp only [List.setIfInBounds_toArray, List.size_toArray]
    rw [← length, List.rotate_mod, List.rotate_eq_drop_append_take (by omega),
      List.drop_set_of_lt (Nat.lt_succ_self hand), List.take_add_one,
      List.take_set_of_le (Nat.le_refl hand), List.getElem?_set_self inside, List.append_assoc]
    rfl

theorem pass_eq (d : Dial) : d.pass = ⟨d.slots.setIfInBounds d.hand
    ((d.occupant? d.hand).map Entry.unmark), d.free, (d.hand + 1) % d.slots.size⟩ := by
  have slots : d.slots.modify d.hand (Option.map Entry.unmark) =
      d.slots.setIfInBounds d.hand ((d.occupant? d.hand).map Entry.unmark) := by
    apply Array.ext_getElem?
    intro i
    rw [Array.getElem?_modify, Array.getElem?_setIfInBounds]
    by_cases here : d.hand = i
    · subst here
      by_cases inside : d.hand < d.slots.size <;> simp [inside, occupant?]
    · simp [here]
  rw [pass, modify, slots_turned, slots]
  rfl

/-! ## One move -/

theorem queue_pass (ordered : d.InOrder) (unripe : ∀ e, ¬ d.Ripe e) :
    d.pass.queue.map Entry.unmark = d.queue.map Entry.unmark := by
  obtain ⟨others, start, turned⟩ := exists_circuit ordered.hand_lt
  have circuit_pass : d.pass.circuit = others ++ ((d.occupant? d.hand).map Entry.unmark).toList := by
    rw [pass_eq, turned]
  rw [queue, queue, clearFirst, clearFirst, circuit_pass, start]
  cases held : d.occupant? d.hand with
  | none => simp
  | some e =>
    -- The entry under the hand has its bit set, or it would be taken out.
    have marked : e.referenced = true := by
      by_contra clear
      exact unripe e ⟨held, by simpa using clear⟩
    have cleared : e.unmark.referenced = false := rfl
    simp [marked, cleared]

theorem queue_takeOut (ordered : d.InOrder) (ripe : d.Ripe e) : d.queue = e :: d.takeOut.queue := by
  obtain ⟨others, start, turned⟩ := exists_circuit ordered.hand_lt
  have circuit_takeOut : d.takeOut.circuit = others ++ [] := turned none (d.hand :: d.free)
  rw [queue, queue, clearFirst, clearFirst, circuit_takeOut, start, ripe.1]
  simp [ripe.2]

/-- A sweep takes the first entry of the queue out and leaves the others in their order. -/
theorem Expels.queue (expels : d.Expels e d') (ordered : d.InOrder) :
    d.queue.map Entry.unmark = e :: d'.queue.map Entry.unmark := by
  induction expels with
  | @take d e ripe =>
    rw [queue_takeOut ordered ripe, List.map_cons, Entry.unmark_of_clear ripe.2]
  | pass unripe _ ih => rw [← queue_pass ordered unripe, ih ordered.pass]

/-! ## Who is in the queue -/

theorem clearFirst_perm (entries : List Entry) : (clearFirst entries).Perm entries := by
  simpa [clearFirst] using List.filter_append_perm (!·.referenced) entries

theorem queue_perm (d : Dial) : d.queue.Perm d.circuit :=
  clearFirst_perm d.circuit

theorem mem_circuit_iff : e ∈ d.circuit ↔ ∃ i, d.occupant? i = some e := by
  rw [circuit, List.reduceOption_mem_iff, List.mem_rotate, Array.mem_toList_iff, Array.mem_iff_getElem?]
  simp [occupant?, Option.join_eq_some_iff]

theorem mem_queue_iff : e ∈ d.queue ↔ ∃ i, d.occupant? i = some e := by
  rw [d.queue_perm.mem_iff, mem_circuit_iff]

/-- Every entry counts once. -/
theorem weigh_eq_sum (f : Entry → Nat) (d : Dial) : d.weigh f = (d.queue.map f).sum := by
  have slots : d.weigh f = (d.slots.toList.map fun slot => slot.elim 0 f).sum := by
    rw [weigh, Finset.sum_range, ← Fin.sum_univ_fun_getElem]
    simp [occupant?]
  have emptied : ∀ slots : List (Option Entry),
      (slots.map fun slot => slot.elim 0 f).sum = (slots.reduceOption.map f).sum := by
    intro slots
    induction slots with
    | nil => rfl
    | cons slot slots ih => cases slot <;> simp [ih]
  have turned := ((List.rotate_perm d.slots.toList d.hand).map fun slot => slot.elim 0 f).sum_eq
  rw [slots, ← turned, emptied, (d.queue_perm.map f).sum_eq, circuit]

end BlobDepot.Cache.Dial
