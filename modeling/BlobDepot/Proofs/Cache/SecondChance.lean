import BlobDepot.Proofs.Cache.Contents

/-! # The second chance

An entry that was used since the hand last passed it does not leave before one that
was already unused at that time and stays unused.

The reason is the relation `Dial.Shelters`.  It holds as long as the used entry has
its bit set, and when the hand clears the bit, the hand stands just behind that
entry, so the unused one comes first on its way.  From then on both come nearer
with every move until the hand takes the unused one out.
-/

namespace BlobDepot.Cache

namespace Dial

/-- The entry in slot `q` has its bit clear; the one in slot `p` has its bit set, or the
    hand comes to it later than to slot `q`. -/
structure Shelters (d : Dial) (p q : Nat) : Prop where
  idle : ∃ e, d.occupant? q = some e ∧ e.referenced = false
  spared : ∃ e, d.occupant? p = some e ∧ (e.referenced = true ∨ d.ahead q < d.ahead p)

variable {d d' : Dial} {p q : Nat}

theorem Shelters.of_turned (h : d.Shelters p q) (ordered : d.InOrder)
    (sizes : d'.slots.size = d.slots.size) (turned : d'.hand = (d.hand + 1) % d.slots.size)
    (others : ∀ i, d.hand ≠ i → d'.occupant? i = d.occupant? i) (away : d.hand ≠ p)
    (away' : d.hand ≠ q) : d'.Shelters p q := by
  obtain ⟨⟨idle, held, clear⟩, spared, held', order⟩ := h
  -- Both slots come nearer by one move, so their order stays.
  have near := ahead_of_turned d' ordered (lt_of_occupant? held) away' sizes turned
  have near' := ahead_of_turned d' ordered (lt_of_occupant? held') away sizes turned
  refine ⟨⟨idle, (others q away').trans held, clear⟩, spared, (others p away).trans held', ?_⟩
  obtain marked | sooner := order
  · exact .inl marked
  · exact .inr (by omega)

theorem Shelters.pass (h : d.Shelters p q) (ordered : d.InOrder) (unripe : ∀ e, ¬ d.Ripe e) :
    d.pass.Shelters p q := by
  have others : ∀ i, d.hand ≠ i → d.pass.occupant? i = d.occupant? i := fun i away => by
    rw [occupant?_pass, if_neg away]
  have away' : d.hand ≠ q := by
    intro same
    subst same
    obtain ⟨e, held, clear⟩ := h.idle
    exact unripe e ⟨held, clear⟩
  by_cases here : d.hand = p
  · -- The hand clears the bit and stands just behind the slot, so it meets `q` first.
    subst here
    obtain ⟨⟨idle, held, clear⟩, spared, held', _⟩ := h
    have far := ahead_pass_hand ordered
    have near := ahead_of_turned d.pass ordered (lt_of_occupant? held) away' (size_slots_pass d) rfl
    have bound := ahead_lt ordered (lt_of_occupant? held)
    refine ⟨⟨idle, (others q away').trans held, clear⟩, spared.unmark, ?_, .inr (by omega)⟩
    rw [occupant?_pass, if_pos rfl, held', Option.map_some]
  · exact h.of_turned ordered (size_slots_pass d) rfl others here away'

/-- A sweep takes the idle entry out or leaves both where they are. -/
theorem Expels.shelters {e : Entry} (expels : d.Expels e d') (ordered : d.InOrder)
    (h : d.Shelters p q) : d.content? q = some e ∨ d'.Shelters p q := by
  induction expels with
  | @take d e ripe =>
    by_cases here : d.hand = q
    · subst here
      exact .inl (content?_of_ripe ripe)
    · -- An entry that is taken out has its bit clear, and `q` would have come first.
      have away : d.hand ≠ p := by
        intro same
        subst same
        obtain ⟨spared, held, order⟩ := h.spared
        rw [ripe.1] at held
        cases held
        obtain marked | sooner := order
        · rw [ripe.2] at marked
          cases marked
        · rw [ahead_hand] at sooner
          cases sooner
      refine .inr (h.of_turned ordered (size_slots_takeOut d) rfl (fun i apart => ?_) away here)
      have slots := (occupant?_vacate (vacate_turned ripe) i).2
      rwa [if_neg apart, occupant?_turned] at slots
  | pass unripe _ ih =>
    rw [← content?_pass]
    exact ih ordered.pass (h.pass ordered unripe)

theorem Shelters.modify (h : d.Shelters p q) {i : Nat} (apart : i ≠ q) {f : Entry → Entry}
    (marks : ∀ e, (f e).referenced = true) : (d.modify i f).Shelters p q := by
  obtain ⟨⟨idle, held, clear⟩, spared, held', order⟩ := h
  have way : ∀ j, (d.modify i f).ahead j = d.ahead j := fun j => by
    simp only [ahead, size_slots_modify]
    rfl
  refine ⟨⟨idle, by rw [occupant?_modify, if_neg apart, held], clear⟩, ?_⟩
  rw [occupant?_modify, held', way, way]
  split
  · exact ⟨f spared, rfl, .inl (marks spared)⟩
  · exact ⟨spared, rfl, order⟩

theorem Shelters.of_others (h : d.Shelters p q) {i : Nat} (sizes : d'.slots.size = d.slots.size)
    (hand : d'.hand = d.hand) (others : ∀ j, j ≠ i → d'.occupant? j = d.occupant? j) (apart : p ≠ i)
    (apart' : q ≠ i) : d'.Shelters p q := by
  obtain ⟨⟨idle, held, clear⟩, spared, held', order⟩ := h
  have way : ∀ j, d'.ahead j = d.ahead j := fun j => by
    simp only [ahead, sizes, hand]
  refine ⟨⟨idle, (others q apart').trans held, clear⟩, spared, (others p apart).trans held', ?_⟩
  rwa [way, way]

end Dial

/-! ## What the hand takes out first -/

/-- The slots of two keys are related by `Dial.Shelters`. -/
def Sheltered (c : Cache) (k j : String) : Prop :=
  ∃ p q, c.index[k]? = some p ∧ c.index[j]? = some q ∧ c.dial.Shelters p q

/-- None of the evictions is of `k` unless one of `j` comes before it. -/
def LeavesFirst (j k : String) : List Eviction → Prop
  | [] => True
  | out :: outs => out.key = j ∨ (out.key ≠ k ∧ LeavesFirst j k outs)

theorem leavesFirst_of_forall {j k : String} {outs : List Eviction} (none : ∀ out ∈ outs, out.key ≠ k)
    {more : List Eviction} (h : LeavesFirst j k more) : LeavesFirst j k (outs ++ more) := by
  induction outs with
  | nil => exact h
  | cons out outs ih =>
    rw [List.forall_mem_cons] at none
    exact .inr ⟨none.1, ih none.2⟩

theorem LeavesFirst.append {j k : String} {outs : List Eviction} (h : LeavesFirst j k outs)
    (left : ∃ out ∈ outs, out.key = j) (more : List Eviction) : LeavesFirst j k (outs ++ more) := by
  induction outs with
  | nil =>
    obtain ⟨_, member, _⟩ := left
    cases member
  | cons out outs ih =>
    obtain first | ⟨other, rest⟩ := h
    · exact .inl first
    · by_cases first : out.key = j
      · exact .inl first
      · obtain ⟨x, member, hx⟩ := left
        obtain rfl | member := List.mem_cons.mp member
        · exact absurd hx first
        · exact .inr ⟨other, ih rest ⟨x, member, hx⟩⟩

theorem LeavesFirst.mem_before {j k : String} (different : k ≠ j) {before after : List Eviction}
    {out : Eviction} (h : LeavesFirst j k (before ++ out :: after)) (key : out.key = k) :
    ∃ x ∈ before, x.key = j := by
  induction before with
  | nil =>
    obtain first | ⟨other, _⟩ := h
    · exact absurd (key.symm.trans first) different
    · exact absurd key other
  | cons x before ih =>
    obtain first | ⟨_, rest⟩ := h
    · exact ⟨x, List.mem_cons_self, first⟩
    · obtain ⟨y, member, hy⟩ := ih rest
      exact ⟨y, List.mem_cons_of_mem x member, hy⟩

/-- How things stand after some evictions: `k` is still sheltered, or `j` has left
    and was the first of the two. -/
def Settled (k j : String) (outs : List Eviction) (c : Cache) : Prop :=
  (c.Sheltered k j ∧ ∀ out ∈ outs, out.key ≠ k) ∨
    (c.value? j = none ∧ LeavesFirst j k outs ∧ ∃ out ∈ outs, out.key = j)

theorem Settled.append {k j : String} {outs more : List Eviction} {c : Cache}
    (h : Settled k j more c) (none : ∀ out ∈ outs, out.key ≠ k) : Settled k j (outs ++ more) c := by
  obtain ⟨sheltered, none'⟩ | ⟨absent, first, out, member, key⟩ := h
  · refine .inl ⟨sheltered, fun out member => ?_⟩
    obtain member | member := List.mem_append.mp member
    · exact none out member
    · exact none' out member
  · exact .inr ⟨absent, leavesFirst_of_forall none first, out, List.mem_append_right outs member, key⟩

theorem Settled.cons {k j : String} {out : Eviction} {more : List Eviction} {c : Cache}
    (h : Settled k j more c) (other : out.key ≠ k) : Settled k j (out :: more) c := by
  have none : ∀ x ∈ [out], x.key ≠ k := by
    simpa using other
  exact h.append none

/-- The hand takes `j` out, or it takes out neither of the two. -/
theorem Sheltered.expel {k j : String} {c c' : Cache} {out : Eviction} (h : c.Consistent)
    (sheltered : c.Sheltered k j) (left : c.expel = some (out, c')) :
    out.key = j ∨ (out.key ≠ k ∧ c'.Sheltered k j) := by
  obtain ⟨p, q, listed, listed', shelters⟩ := sheltered
  obtain ⟨e, dial, expels, rfl, rfl⟩ := expel_eq_some left
  obtain ⟨i, held, slots⟩ := expels.content?
  obtain idle | shelters' := expels.shelters h.inOrder shelters
  · have key := (h.index_content j q).mp listed'
    rw [idle, Option.map_some] at key
    exact .inl (Option.some.inj key)
  · have vacant : dial.occupant? i = none := by
      rw [← Dial.content?_eq_none_iff, slots, if_pos rfl]
    have listed_e : c.index[e.key]? = some i := (h.index_content e.key i).mpr (by rw [held]; rfl)
    -- Neither slot is the emptied one, so neither key is the one that leaves.
    have other : ∀ {key : String} {s : Nat}, c.index[key]? = some s → dial.occupant? s ≠ none → e.key ≠ key := by
      intro key s listed_s occupied same
      subst same
      rw [listed_e] at listed_s
      cases listed_s
      exact occupied vacant
    have apart : e.key ≠ k := other listed (by
      obtain ⟨x, held_x, _⟩ := shelters'.spared
      simp [held_x])
    have apart' : e.key ≠ j := other listed' (by
      obtain ⟨x, held_x, _⟩ := shelters'.idle
      simp [held_x])
    refine .inr ⟨apart, p, q, ?_, ?_, shelters'⟩
    · simpa [Std.ExtTreeMap.getElem?_erase, apart] using listed
    · simpa [Std.ExtTreeMap.getElem?_erase, apart'] using listed'

theorem Sheltered.expelUntil {k j : String} {c : Cache} (h : c.Consistent)
    (sheltered : c.Sheltered k j) (fits : Cache → Bool) (rounds : Nat) :
    Settled k j (expelUntil fits rounds c).1 (expelUntil fits rounds c).2 := by
  induction rounds generalizing c with
  | zero => exact .inl ⟨sheltered, fun _ member => by cases member⟩
  | succ rounds ih =>
    obtain stop | ⟨full, out, rest, left⟩ := stop_or_expel fits c
    · rw [expelUntil_stop stop]
      exact .inl ⟨sheltered, fun _ member => by cases member⟩
    · rw [expelUntil_next full left]
      obtain first | ⟨other, sheltered'⟩ := sheltered.expel h left
      · -- The entry of `j` is gone and stays away while the loop goes on.
        have absent : rest.value? j = none := by
          refine Option.eq_none_iff_forall_ne_some.mpr fun v cached => ?_
          exact ((h.value?_expel left).mp cached).1 first.symm
        exact .inr ⟨(h.expel left).absent_expelUntil absent fits rounds, .inl first, out,
          List.mem_cons_self, first⟩
      · exact (ih (h.expel left) sheltered').cons other

/-! ## Calls -/

/-- A call that does not use `j` and takes neither `k` nor `j` out in another way than
    by the hand. -/
def Permits (k j : String) (c : Cache) : Call → Prop
  | .get key => key = j → c.contains j = false
  | .set key value => key ≠ j ∧ (key = k → (c.set key value).verdict = .stored)
  | .forget key => key ≠ k ∧ key ≠ j
  | .contains _ | .isEmpty | .snapshot => True

/-- A sequence of calls, all of which are permitted when their turn comes. -/
def PermitsAll (k j : String) (c : Cache) : List Call → Prop
  | [] => True
  | call :: calls => c.Permits k j call ∧ PermitsAll k j (c.step call).2 calls

theorem Sheltered.contains {k j : String} {c : Cache} (sheltered : c.Sheltered k j) :
    c.contains j = true := by
  obtain ⟨p, q, _, listed, _⟩ := sheltered
  rw [Cache.contains, Std.ExtTreeMap.contains_eq_isSome_getElem?, listed]
  rfl

theorem Sheltered.get {k j key : String} {c : Cache} (h : c.Consistent) (sheltered : c.Sheltered k j)
    (other : key ≠ j) : (c.get key).2.Sheltered k j := by
  obtain ⟨p, q, listed, listed', shelters⟩ := sheltered
  rw [Cache.get]
  split
  · rename_i i e found
    obtain ⟨held, rfl⟩ := h.find?_eq_some_iff.mp found
    have apart := h.slot_ne (h.listed held) listed' other
    exact ⟨p, q, listed, listed', shelters.modify apart fun _ => rfl⟩
  · exact ⟨p, q, listed, listed', shelters⟩

theorem Sheltered.forget {k j key : String} {c : Cache} (h : c.Consistent)
    (sheltered : c.Sheltered k j) (other : key ≠ k) (other' : key ≠ j) :
    (c.forget key).2.Sheltered k j := by
  cases listed_key : c.index[key]? with
  | none =>
    rw [forget_of_unlisted listed_key]
    exact sheltered
  | some i =>
    obtain ⟨p, q, listed, listed', shelters⟩ := sheltered
    obtain ⟨e, dial, taken, _, forgotten⟩ := h.forget_of_listed listed_key
    obtain ⟨_, sizes, hand, _, slots⟩ := h.inOrder.vacate taken
    rw [forgotten]
    refine ⟨p, q, ?_, ?_, shelters.of_others sizes hand (fun s hs => ?_)
      (h.slot_ne listed listed_key other.symm) (h.slot_ne listed' listed_key other'.symm)⟩
    · simpa [Std.ExtTreeMap.getElem?_erase, other] using listed
    · simpa [Std.ExtTreeMap.getElem?_erase, other'] using listed'
    · rw [slots, if_neg hs]

theorem Sheltered.replace {k j key : String} {c : Cache} (h : c.Consistent)
    (sheltered : c.Sheltered k j) {i : Nat} (listed : c.index[key]? = some i) (other : key ≠ j)
    (value : ByteArray) : (c.replace i value).Sheltered k j := by
  obtain ⟨p, q, listed_k, listed_j, shelters⟩ := sheltered
  obtain ⟨e, held, rfl⟩ := h.held_of_listed listed
  have apart := h.slot_ne listed listed_j other
  simp only [Cache.replace, held]
  exact ⟨p, q, listed_k, listed_j, shelters.modify apart fun _ => rfl⟩

theorem Sheltered.insert {k j key : String} {c : Cache} (h : c.Consistent) (sheltered : c.Sheltered k j)
    (unlisted : c.index[key]? = none) {value : ByteArray} {i : Nat} {dial : Dial}
    (placed : c.dial.place (.fresh key value) = some (i, dial)) (used : Nat) :
    ({ c with index := c.index.insert key i, dial, used } : Cache).Sheltered k j := by
  obtain ⟨p, q, listed, listed', shelters⟩ := sheltered
  obtain ⟨_, sizes, _, vacant, slots⟩ := h.inOrder.place placed
  have hand : dial.hand = c.dial.hand := by
    rw [Dial.place] at placed
    split at placed
    · cases placed
    · cases placed
      rfl
  have different : ∀ {s : Nat} {name : String}, c.index[name]? = some s → key ≠ name := by
    intro s name listed_s same
    subst same
    rw [unlisted] at listed_s
    cases listed_s
  refine ⟨p, q, ?_, ?_, shelters.of_others sizes hand (fun s hs => ?_)
    (h.slot_ne_of_vacant listed vacant) (h.slot_ne_of_vacant listed' vacant)⟩
  · simpa [Std.ExtTreeMap.getElem?_insert, different listed] using listed
  · simpa [Std.ExtTreeMap.getElem?_insert, different listed'] using listed'
  · rw [slots, if_neg hs]

theorem Settled.of_none {k j : String} {c : Cache} (sheltered : c.Sheltered k j) : Settled k j [] c :=
  .inl ⟨sheltered, fun _ member => by cases member⟩

theorem Sheltered.set {k j key : String} {value : ByteArray} {c : Cache} (h : c.Consistent)
    (sheltered : c.Sheltered k j) (other : key ≠ j)
    (stored : key = k → (c.set key value).verdict = .stored) :
    Settled k j (c.set key value).evicted (c.set key value).cache := by
  unfold Cache.set at stored ⊢
  split at stored
  · -- A refusal drops the key, which is neither `k` nor `j`.
    rename_i large
    have different : key ≠ k := fun same => by cases stored same
    obtain ⟨p, q, listed, listed', shelters⟩ := sheltered.forget h different other
    rw [if_pos large]
    exact .of_none ⟨p, q, listed, listed', shelters⟩
  · rename_i fitting
    rw [if_neg fitting]
    cases listed : c.index[key]? with
    | some i =>
      -- Replacing the value is a use of the entry; then the hand makes room.
      exact (sheltered.replace h listed other value).expelUntil (h.replace i value) _ _
    | none =>
      -- The hand makes room, and the newcomer comes into an empty slot.
      obtain ⟨i, dial, placed, added⟩ := h.add_eq key (Nat.not_lt.mp fitting)
      have consistent := h.makeRoom (hasRoomFor value.size)
      have unlisted := unlisted_makeRoom listed (hasRoomFor value.size)
      simp only [added]
      rcases sheltered.expelUntil h (hasRoomFor value.size) c.dial.capacity with
        ⟨sheltered', none⟩ | ⟨absent, first⟩
      · exact .inl ⟨Sheltered.insert consistent sheltered' unlisted placed _, none⟩
      · refine .inr ⟨?_, first⟩
        rw [consistent.value?_insert placed, if_neg (Ne.symm other)]
        exact absent

/-- A permitted call keeps `k` sheltered, or `j` is the first of the two to leave. -/
theorem Sheltered.step {k j : String} {c : Cache} (h : c.Consistent) (sheltered : c.Sheltered k j)
    {call : Call} (permitted : c.Permits k j call) :
    Settled k j (c.step call).1.evicted (c.step call).2 := by
  cases call with
  | get key =>
    -- As long as `j` is cached, a permitted look-up is of another key.
    refine .of_none (sheltered.get h fun same => ?_)
    have missing := permitted same
    rw [sheltered.contains] at missing
    cases missing
  | set key value => exact sheltered.set h permitted.1 permitted.2
  | forget key => exact .of_none (sheltered.forget h permitted.1 permitted.2)
  | contains _ | isEmpty | snapshot => exact .of_none sheltered

theorem Coherent.absent_step {k j : String} {c : Cache} (h : c.Coherent) (absent : c.value? j = none)
    {call : Call} (permitted : c.Permits k j call) : (c.step call).2.value? j = none := by
  refine Option.eq_none_iff_forall_ne_some.mpr fun v cached => ?_
  have before : c.value? j = some v := by
    cases call with
    | get key => exact (value?_get h key j).symm.trans cached
    | set key value =>
      obtain ⟨same, _⟩ | ⟨_, before⟩ := h.value?_set cached
      · exact absurd same.symm permitted.1
      · exact before
    | forget key => exact (h.toConsistent.value?_forget.mp cached).2
    | contains _ | isEmpty | snapshot => exact cached
  rw [absent] at before
  cases before

theorem Coherent.absent_run {k j : String} {c : Cache} (h : c.Coherent) (absent : c.value? j = none)
    {calls : List Call} (permitted : c.PermitsAll k j calls) : (c.run calls).value? j = none := by
  induction calls generalizing c with
  | nil => exact absent
  | cons call calls ih => exact ih (h.step call).1 (h.absent_step absent permitted.1) permitted.2

theorem Sheltered.run {k j : String} {c : Cache} (h : c.Coherent) (sheltered : c.Sheltered k j)
    {calls : List Call} (permitted : c.PermitsAll k j calls) :
    Settled k j (c.evictions calls) (c.run calls) := by
  induction calls generalizing c with
  | nil => exact .of_none sheltered
  | cons call calls ih =>
    have next := (h.step call).1
    obtain ⟨sheltered', none⟩ | ⟨absent, first, left⟩ := sheltered.step h.toConsistent permitted.1
    · exact (ih next sheltered' permitted.2).append none
    · -- Once `j` has left, the order is settled and nothing brings `j` back.
      obtain ⟨out, member, key⟩ := left
      refine .inr ⟨next.absent_run absent permitted.2, first.append ⟨out, member, key⟩ _, out, ?_, key⟩
      exact List.mem_append_left _ member

/-- If the bit of `k` is set and that of `j` is clear, and from then on `j` is neither
    used nor stored, nor is `k` refused or one of the two forgotten, then the hand takes
    `k` out only after it has taken `j` out, and `j` is not cached any more.  (The calls
    can end with the one that takes `k` out; what comes later plays no part.) -/
theorem idle_leaves_first {c : Cache} (reachable : c.Reachable) {k j : String} {p q : Nat}
    {e e' : Entry} (cached : c.find? k = some (p, e)) (referenced : e.referenced = true)
    (cached' : c.find? j = some (q, e')) (idle : e'.referenced = false) {calls : List Call}
    (permitted : c.PermitsAll k j calls) {before after : List Eviction} {out : Eviction}
    (trace : c.evictions calls = before ++ out :: after) (key : out.key = k) :
    (∃ x ∈ before, x.key = j) ∧ (c.run calls).contains j = false := by
  have coherent := reachable.coherent
  have consistent := coherent.toConsistent
  obtain ⟨held, hk⟩ := consistent.find?_eq_some_iff.mp cached
  obtain ⟨held', hj⟩ := consistent.find?_eq_some_iff.mp cached'
  have different : k ≠ j := by
    intro same
    subst same
    rw [cached] at cached'
    cases cached'
    rw [referenced] at idle
    cases idle
  have sheltered : c.Sheltered k j :=
    ⟨p, q, hk ▸ consistent.listed held, hj ▸ consistent.listed held',
      ⟨e', held', idle⟩, e, held, .inl referenced⟩
  obtain ⟨_, none⟩ | ⟨absent, first, _⟩ := sheltered.run coherent permitted
  · rw [trace] at none
    exact absurd key (none out (by simp))
  · rw [trace] at first
    refine ⟨first.mem_before different key, ?_⟩
    rw [← (coherent.run calls).1.toConsistent.isSome_value?, absent]
    rfl

/-- One large blob drives three others out: the hand spares the one that was used, takes
    out the two that were not, and takes out the first when it comes back to it. -/
theorem idle_leaves_first_of_three :
    let c := (empty 3 6).run [.set "a" ⟨#[1, 1]⟩, .set "b" ⟨#[2, 2]⟩, .set "c" ⟨#[3, 3]⟩, .get "a"]
    let calls := [.get "a", .forget "z", .set "d" ⟨#[4, 4, 4, 4, 4, 4]⟩]
    c.evictions calls = [⟨"b", 2, 4⟩, ⟨"c", 2, 2⟩, ⟨"a", 2, 0⟩] ∧
      (∃ x ∈ [(⟨"b", 2, 4⟩ : Eviction), ⟨"c", 2, 2⟩], x.key = "b") ∧
      (c.run calls).contains "b" = false := by
  intro c calls
  have reachable : c.Reachable := ⟨3, 6, _, by decide, rfl⟩
  have cached : c.find? "a" = some (0, ⟨"a", ⟨#[1, 1]⟩, 2, true⟩) := by decide +kernel
  have cached' : c.find? "b" = some (1, ⟨"b", ⟨#[2, 2]⟩, 2, false⟩) := by decide +kernel
  have permitted : c.PermitsAll "a" "b" calls := by simp [calls, PermitsAll, Permits]
  have trace : c.evictions calls = [⟨"b", 2, 4⟩, ⟨"c", 2, 2⟩, ⟨"a", 2, 0⟩] := by decide +kernel
  have split : c.evictions calls = [⟨"b", 2, 4⟩, ⟨"c", 2, 2⟩] ++ ⟨"a", 2, 0⟩ :: [] := trace
  exact ⟨trace, idle_leaves_first reachable cached rfl cached' rfl permitted split rfl⟩

end BlobDepot.Cache
