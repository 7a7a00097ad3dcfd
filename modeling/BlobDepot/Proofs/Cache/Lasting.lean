import Mathlib.Data.List.TakeWhile
import BlobDepot.Proofs.Cache.Victims

/-! # Values that last

A value that is stored under a new key is there afterwards, since room is made before it
comes.  A value that replaces another one is there before room is made, and only its bit
protects it: it is in the line of those that may have to leave, behind all whose bit is clear.

So whether it lasts is decided by those that stand behind it in the line, which are the
entries with a set bit to which the hand comes later (`line_eq`).  They stay if the value
stays, and together they have to find room (`Coherent.spared_iff`).
-/

namespace BlobDepot.Cache

/-- The entries with a set bit to which the hand comes after that of a key. -/
def behind (c : Cache) (key : String) : List Entry :=
  ((c.dial.circuit.dropWhile (·.key != key)).drop 1).filter (·.referenced)

/-- A value has room under its key beside all that would have to leave after it. -/
def Lasts (c : Cache) (key : String) (value : ByteArray) : Prop :=
  value.size + load (c.behind key) ≤ c.byteLimit

instance (c : Cache) (key : String) (value : ByteArray) : Decidable (c.Lasts key value) :=
  inferInstanceAs (Decidable (_ ≤ _))

variable {c : Cache} {key : String} {value : ByteArray} {e : Entry} {room : List Entry → Prop}
variable {before after victims rest : List Entry}

/-! ## Loads -/

theorem load_append (front back : List Entry) : load (front ++ back) = load front + load back := by
  simp [load]

theorem load_cons (e : Entry) (entries : List Entry) :
    load (e :: entries) = e.value.size + load entries := by
  simp [load]

theorem load_filter_le (p : Entry → Bool) (entries : List Entry) :
    load (entries.filter p) ≤ load entries := by
  induction entries with
  | nil => simp
  | cons e entries ih =>
    rw [List.filter_cons]
    split
    · rw [load_cons, load_cons]
      omega
    · rw [load_cons]
      omega

/-! ## The front part that leaves -/

/-- Where fewer entries need no more room, nobody behind a given place has to leave exactly if
    there is room for all from that place on. -/
theorem FirstSplit.prefix_iff (mono : ∀ front back, room (front ++ back) → room back)
    (h : FirstSplit room (before ++ after) victims rest) : victims <+: before ↔ room after := by
  constructor
  · rintro ⟨more, rfl⟩
    have cut := h.split
    rw [List.append_assoc, List.append_cancel_left_eq] at cut
    apply mono more
    rw [cut]
    exact h.enough
  · intro enough
    have shorter := h.shortest before after rfl enough
    have front : victims <+: before ++ after := ⟨rest, h.split.symm⟩
    exact List.prefix_of_prefix_length_le front (List.prefix_append before after) shorter

/-- An entry is spared exactly if there is room for it and all behind it. -/
theorem FirstSplit.not_mem_iff (mono : ∀ front back, room (front ++ back) → room back)
    (h : FirstSplit room (before ++ e :: after) victims rest) (first : ∀ x ∈ before, x.key ≠ e.key) :
    e.key ∉ victims.map Entry.key ↔ room (e :: after) := by
  rw [← h.prefix_iff mono]
  constructor
  · intro spared
    have whole : before ++ e :: after = (before ++ [e]) ++ after := by simp
    have front : victims <+: (before ++ [e]) ++ after := ⟨rest, by rw [← whole, h.split]⟩
    have absent : e ∉ victims := fun member => spared (List.mem_map_of_mem member)
    obtain shorter | longer := List.prefix_or_prefix_of_prefix front (List.prefix_append ..)
    · obtain rfl | inside := List.prefix_concat_iff.mp shorter
      · exact absurd (List.mem_append_right before List.mem_cons_self) absent
      · exact inside
    · exact absurd (longer.subset (List.mem_append_right before List.mem_cons_self)) absent
  · intro inside member
    obtain ⟨x, left, same⟩ := List.mem_map.mp member
    exact first x (inside.subset left) same

/-! ## The place of a key in the line -/

/-- The entry of a cached key stands in the circuit once. -/
theorem Consistent.exists_circuit (h : c.Consistent) {i : Nat} (listed : c.index[key]? = some i) :
    ∃ front e back, c.dial.circuit = front ++ e :: back ∧ e.key = key ∧
      c.dial.occupant? i = some e ∧ (∀ x ∈ front, x.key ≠ key) ∧ ∀ x ∈ back, x.key ≠ key := by
  obtain ⟨e, held, rfl⟩ := h.held_of_listed listed
  have member : e ∈ c.dial.circuit := Dial.mem_circuit_iff.mpr ⟨i, held⟩
  obtain ⟨front, back, split⟩ := List.append_of_mem member
  have distinct : (c.dial.circuit.map Entry.key).Nodup :=
    ((c.dial.queue_perm.map Entry.key).nodup_iff.mp
      (h.keys_perm.nodup_iff.mp Std.ExtTreeMap.nodup_keys))
  rw [split, List.map_append, List.map_cons, List.nodup_append, List.nodup_cons] at distinct
  obtain ⟨_, ⟨apart, _⟩, apart'⟩ := distinct
  refine ⟨front, e, back, split, rfl, held, fun x before same => ?_, fun x later same => ?_⟩
  · exact apart' x.key (List.mem_map_of_mem before) e.key List.mem_cons_self same
  · exact apart (same ▸ List.mem_map_of_mem later)

theorem behind_eq {front back : List Entry} (circuit : c.dial.circuit = front ++ e :: back)
    (hkey : e.key = key) (first : ∀ x ∈ front, x.key ≠ key) :
    c.behind key = back.filter (·.referenced) := by
  have passed : ∀ x ∈ front, (x.key != key) = true := fun x member => by simpa using first x member
  rw [behind, circuit, List.dropWhile_append_of_pos passed]
  simp [hkey]

theorem Consistent.behind_of_unlisted (h : c.Consistent) (unlisted : c.index[key]? = none) :
    c.behind key = [] := by
  have passed : ∀ x ∈ c.dial.circuit, (x.key != key) = true := by
    intro x member
    simpa using h.key_ne_of_unlisted unlisted member
  rw [behind, List.dropWhile_eq_nil_iff.mpr passed]
  rfl

/-- In the line a renewed entry has those behind it that have their bit set and come later in
    the circuit. -/
theorem line_eq {front back : List Entry} (circuit : c.dial.circuit = front ++ e :: back)
    (hkey : e.key = key) (first : ∀ x ∈ front, x.key ≠ key) (last : ∀ x ∈ back, x.key ≠ key)
    (value : ByteArray) :
    ∃ before, c.line key value = before ++ e.renew value :: c.behind key ∧
      ∀ x ∈ before, x.key ≠ key := by
  have untouched : ∀ entries : List Entry, (∀ x ∈ entries, x.key ≠ key) →
      entries.map (Entry.offered key value) = entries := by
    intro entries others
    have same : ∀ x ∈ entries, x.offered key value = x := fun x member =>
      if_neg (others x member)
    rw [List.map_congr_left same, List.map_id']
  have renewed : e.offered key value = e.renew value := if_pos hkey
  have marked : (e.renew value).referenced = true := rfl
  refine ⟨front.filter (!·.referenced) ++ back.filter (!·.referenced) ++ front.filter (·.referenced),
    ?_, fun x member => ?_⟩
  · rw [line, circuit, List.map_append, List.map_cons, untouched front first, untouched back last,
      renewed, behind_eq circuit hkey first, Dial.clearFirst]
    simp [marked]
  · simp only [List.mem_append, List.mem_filter] at member
    obtain (⟨inside, _⟩ | ⟨inside, _⟩) | ⟨inside, _⟩ := member
    · exact first x inside
    · exact last x inside
    · exact first x inside

/-! ## Values that were stored -/

/-- The hand does not take out what was just stored exactly if it lasts. -/
theorem Coherent.spared_iff (h : c.Coherent) (small : value.size ≤ c.byteLimit) :
    (∀ out ∈ (c.set key value).evicted, out.key ≠ key) ↔ c.Lasts key value := by
  have consistent := h.toConsistent
  obtain ⟨_, victims, rest, split, outs⟩ := h.set_splits key small
  have left : (∀ out ∈ (c.set key value).evicted, out.key ≠ key) ↔ key ∉ victims.map Entry.key := by
    rw [outs, ← keys_departures (load (c.line key value))]
    simp
  rw [left]
  cases listed : c.index[key]? with
  | none =>
    -- Nobody in the line has the key.
    have absent : key ∉ victims.map Entry.key := by
      intro member
      obtain ⟨x, inside, same⟩ := List.mem_map.mp member
      have cached := consistent.contains_of_mem_line
        (split.split ▸ List.mem_append_left rest inside : x ∈ c.line key value)
      rw [same, contains_eq_isSome, listed] at cached
      cases cached
    have alone : load (c.behind key) = 0 := by rw [consistent.behind_of_unlisted listed]; rfl
    rw [Lasts, alone]
    exact iff_of_true absent small
  | some i =>
    obtain ⟨front, e, back, circuit, hkey, _, first, last⟩ := consistent.exists_circuit listed
    obtain ⟨before, line, others⟩ := line_eq circuit hkey first last value
    have limit := leavesRoom_of_listed listed value
    have mono : ∀ front back, c.LeavesRoom key value (front ++ back) → c.LeavesRoom key value back := by
      intro front back
      rw [limit, limit, load_append]
      omega
    have renewed : (e.renew value).key = key := hkey
    rw [line] at split
    have spared := split.not_mem_iff mono (fun x member => by rw [renewed]; exact others x member)
    rw [renewed, limit, load_cons] at spared
    exact spared

/-- A value that replaces one of at least its size lasts. -/
theorem Coherent.lasts_of_smaller (h : c.Coherent) {old : ByteArray} (cached : c.value? key = some old)
    (smaller : value.size ≤ old.size) : c.Lasts key value := by
  have consistent := h.toConsistent
  obtain ⟨⟨i, e⟩, found, rfl⟩ := Option.map_eq_some_iff.mp cached
  obtain ⟨held, hkey⟩ := consistent.find?_eq_some_iff.mp found
  have listed : c.index[key]? = some i := hkey ▸ consistent.listed held
  obtain ⟨front, e', back, circuit, hkey', held', first, last⟩ := consistent.exists_circuit listed
  rw [held] at held'
  cases held'
  -- The old value and those behind it are among the entries that found room before.
  have whole : load c.dial.queue = load front + (e.value.size + load back) := by
    rw [load, (c.dial.queue_perm.map _).sum_eq, circuit, ← load, load_append, load_cons]
  have bound := h.used_le
  have fewer := load_filter_le (·.referenced) back
  rw [consistent.used_eq_load, whole] at bound
  rw [Lasts, behind_eq circuit hkey first]
  simp only at smaller
  omega

/-- A value that was stored is found right afterwards exactly if it lasts, and then it is found
    as it was stored.  Under a new key it always lasts, and so does a value that replaces one
    of at least its size.  One that is larger than what it replaces lasts exactly if it has
    room beside the entries that have their bit set and to which the hand comes later. -/
theorem Reachable.stored_lasts_iff (h : c.Reachable) (stored : (c.set key value).verdict = .stored) :
    ((c.set key value).cache.contains key = true ↔ c.Lasts key value) ∧
      (∀ v, ((c.set key value).cache.get key).1 = some v ↔ v = value ∧ c.Lasts key value) ∧
      (c.contains key = false → c.Lasts key value) ∧
      ∀ old, c.value? key = some old → value.size ≤ old.size → c.Lasts key value := by
  have coherent := h.coherent
  have small : value.size ≤ c.byteLimit := by
    by_contra large
    rw [set, if_pos (Nat.not_le.mp large)] at stored
    cases stored
  have spared : (∀ out ∈ (c.set key value).evicted, out.key ≠ key) ↔ c.Lasts key value :=
    coherent.spared_iff small
  have found : ∀ v, (c.set key value).cache.value? key = some v ↔ v = value ∧ c.Lasts key value := by
    intro v
    rw [coherent.value?_set_iff, spared, stored]
    simp [and_comm]
  refine ⟨?_, fun v => ?_, fun new => ?_, fun old => coherent.lasts_of_smaller⟩
  · rw [← (coherent.set key value).toConsistent.isSome_value?, Option.isSome_iff_exists]
    simp [found]
  · rw [get_fst, found]
  · rw [Lasts, coherent.toConsistent.behind_of_unlisted (contains_eq_false_iff.mp new)]
    simpa [load] using small

/-- A value grows beside another entry whose bit is set and to which the hand comes first.  Both
    bits are cleared, and the other entry leaves. -/
theorem Reachable.stored_lasts_iff_of_growth :
    let c := (empty 2 2).run [.set "a" ⟨#[1]⟩, .set "b" ⟨#[2]⟩, .get "a"]
    let grown : ByteArray := ⟨#[3, 4]⟩
    (c.set "b" grown).verdict = .stored ∧ c.Lasts "b" grown ∧
      ((c.set "b" grown).cache.contains "b" = true ↔ c.Lasts "b" grown) ∧
      (∀ v, ((c.set "b" grown).cache.get "b").1 = some v ↔ v = grown ∧ c.Lasts "b" grown) ∧
      (c.contains "b" = false → c.Lasts "b" grown) ∧
      ∀ old, c.value? "b" = some old → grown.size ≤ old.size → c.Lasts "b" grown :=
  ⟨by decide +kernel, by decide +kernel,
    Reachable.stored_lasts_iff ⟨2, 2, _, by decide, rfl⟩ (by decide +kernel)⟩

/-- A value grows before another entry whose bit is set.  It is said to be stored and leaves to
    make room for itself. -/
theorem stored_leaves_at_once :
    let c := (empty 2 2).run [.set "a" ⟨#[1]⟩, .set "b" ⟨#[2]⟩, .get "b"]
    let grown : ByteArray := ⟨#[3, 4]⟩
    c.Reachable ∧ (c.set "a" grown).verdict = .stored ∧
      (c.set "a" grown).cache.contains "a" = false ∧ ((c.set "a" grown).cache.get "a").1 = none :=
  ⟨⟨2, 2, _, by decide, rfl⟩, by decide +kernel⟩

end BlobDepot.Cache
