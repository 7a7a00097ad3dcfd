import Mathlib.Logic.Function.Basic
import BlobDepot.Proofs.Cache.Coherence

/-! # Keys and bytes that a cache does not look at

Two caches are recasts of one another if the second has the slots, the stack, the hand, the bits
and the counters of the first, and under each key of the first, renamed, a value of the same
length.  What the bytes are and how the keys are written may differ.

As long as different keys get different names, calls that are recasts of one another lead from
such caches to such caches, and their answers differ in names and bytes only (`Recast.step`).  So
who is admitted and who has to leave depends on nothing but which keys are the same and how long
the values are (`bytes_unseen`).
-/

namespace BlobDepot.Cache

/-! ## What may differ -/

/-- The entry has another name and other bytes, of the same number. -/
structure Entry.Recast (rename : String → String) (e e' : Entry) : Prop where
  key : e'.key = rename e.key
  length : e'.value.size = e.value.size
  size : e'.size = e.size
  referenced : e'.referenced = e.referenced

/-- The entries of the dial are recast, each in its slot. -/
structure Dial.Recast (rename : String → String) (d d' : Dial) : Prop where
  size_slots : d'.slots.size = d.slots.size
  occupant : ∀ i, Option.Rel (Entry.Recast rename) (d.occupant? i) (d'.occupant? i)
  free : d'.free = d.free
  hand : d'.hand = d.hand

/-- The index has the same slots under the new names. -/
structure Renamed (rename : String → String) (index index' : Std.ExtTreeMap String Nat) : Prop where
  slot : ∀ key, index'[rename key]? = index[key]?
  size : index'.size = index.size

/-- The parts of the cache are recast. -/
structure Recast (rename : String → String) (c c' : Cache) : Prop where
  limits : c.SameLimits c'
  index : Renamed rename c.index c'.index
  dial : c.dial.Recast rename c'.dial
  used : c'.used = c.used
  tally : c'.tally = c.tally

/-- The same eviction, under the new name. -/
def Eviction.recast (rename : String → String) (out : Eviction) : Eviction :=
  { out with key := rename out.key }

/-- The entries leave in the same order, and the cache after that is recast. -/
structure Cleared (rename : String → String) (one other : List Eviction × Cache) : Prop where
  evicted : other.1 = one.1.map (Eviction.recast rename)
  cache : one.2.Recast rename other.2

/-- The value meets the same verdict and takes the place of the same entries. -/
structure Placement.Recast (rename : String → String) (p p' : Placement) : Prop where
  verdict : p'.verdict = p.verdict
  evicted : p'.evicted = p.evicted.map (Eviction.recast rename)
  cache : p.cache.Recast rename p'.cache

/-- The same call about the new name.  A value may be any other of the same length. -/
inductive Call.Recast (rename : String → String) : Call → Call → Prop where
  | get (key : String) : Recast rename (.get key) (.get (rename key))
  | set (key : String) {value value' : ByteArray} (length : value'.size = value.size) :
      Recast rename (.set key value) (.set (rename key) value')
  | forget (key : String) : Recast rename (.forget key) (.forget (rename key))
  | contains (key : String) : Recast rename (.contains key) (.contains (rename key))
  | isEmpty : Recast rename .isEmpty .isEmpty
  | snapshot : Recast rename .snapshot .snapshot

/-- The same answer, up to the names of those that left and the bytes that were found. -/
inductive Answer.Recast (rename : String → String) : Answer → Answer → Prop where
  | blob {found found' : Option ByteArray}
      (lengths : found'.map ByteArray.size = found.map ByteArray.size) :
      Recast rename (.blob found) (.blob found')
  | placed (verdict : Verdict) (evicted : List Eviction) :
      Recast rename (.placed verdict evicted)
        (.placed verdict (evicted.map (Eviction.recast rename)))
  | flag (b : Bool) : Recast rename (.flag b) (.flag b)
  | told (s : Snapshot) : Recast rename (.told s) (.told s)

/-- After a call the answer is the same up to names and bytes, and all that the cache tells about
    itself is the same. -/
structure Echoed (rename : String → String) (one other : Answer × Cache) : Prop where
  answer : one.1.Recast rename other.1
  size : other.2.size = one.2.size
  used : other.2.used = one.2.used
  snapshot : other.2.snapshot = one.2.snapshot

variable {rename : String → String} {value value' : ByteArray} {key : String} {i : Nat}

theorem rel_cases {α β : Type} {R : α → β → Prop} {x : Option α} {y : Option β}
    (related : Option.Rel R x y) :
    (x = none ∧ y = none) ∨ ∃ a b, x = some a ∧ y = some b ∧ R a b := by
  cases related with
  | none => exact .inl ⟨rfl, rfl⟩
  | some related => exact .inr ⟨_, _, rfl, rfl, related⟩

theorem Answer.Recast.evicted {answer answer' : Answer} (same : answer.Recast rename answer') :
    answer'.evicted = answer.evicted.map (Eviction.recast rename) := by
  cases same with
  | placed _ _ => rfl
  | blob _ | flag _ | told _ => rfl

/-! ## Entries and slots -/

namespace Entry.Recast

variable {e e' : Entry}

theorem mark (h : e.Recast rename e') : e.mark.Recast rename e'.mark :=
  ⟨h.key, h.length, h.size, rfl⟩

theorem unmark (h : e.Recast rename e') : e.unmark.Recast rename e'.unmark :=
  ⟨h.key, h.length, h.size, rfl⟩

theorem renew (h : e.Recast rename e') (length : value'.size = value.size) :
    (e.renew value).Recast rename (e'.renew value') :=
  ⟨h.key, length, length, rfl⟩

theorem fresh (key : String) (length : value'.size = value.size) :
    (Entry.fresh key value).Recast rename (.fresh (rename key) value') :=
  ⟨rfl, length, length, rfl⟩

end Entry.Recast

namespace Dial

variable {d d' : Dial}

theorem recast_empty (rename : String → String) (capacity : Nat) :
    (empty capacity).Recast rename (empty capacity) where
  size_slots := rfl
  occupant i := by
    rw [occupant?_empty]
    exact .none
  free := rfl
  hand := rfl

namespace Recast

theorem turned (h : d.Recast rename d') : d.turned.Recast rename d'.turned where
  size_slots := h.size_slots
  occupant := h.occupant
  free := h.free
  hand := by simp only [Dial.turned, h.hand, h.size_slots]

theorem modify (h : d.Recast rename d') {f f' : Entry → Entry}
    (changed : ∀ {e e'}, e.Recast rename e' → (f e).Recast rename (f' e')) (i : Nat) :
    (d.modify i f).Recast rename (d'.modify i f') where
  size_slots := by rw [size_slots_modify, size_slots_modify, h.size_slots]
  occupant j := by
    rw [occupant?_modify, occupant?_modify]
    split
    · obtain ⟨vacant, vacant'⟩ | ⟨e, e', held, held', same⟩ := rel_cases (h.occupant j)
      · rw [vacant, vacant']
        exact .none
      · rw [held, held']
        exact .some (changed same)
    · exact h.occupant j
  free := h.free
  hand := h.hand

/-- Whatever is put into one slot, the others stay recast. -/
theorem put (h : d.Recast rename d') (i : Nat) {slot slot' : Option Entry} {free free' : List Nat}
    {hand hand' : Nat} (same : Option.Rel (Entry.Recast rename) slot slot') (frees : free' = free)
    (hands : hand' = hand) : Dial.Recast rename ⟨d.slots.setIfInBounds i slot, free, hand⟩
      ⟨d'.slots.setIfInBounds i slot', free', hand'⟩ where
  size_slots := by simp [h.size_slots]
  occupant j := by
    rw [occupant?_put, occupant?_put, h.size_slots]
    split
    · exact same
    · exact h.occupant j
  free := frees
  hand := hands

theorem vacate (h : d.Recast rename d') (i : Nat) :
    Option.Rel (Prod.RProd (Entry.Recast rename) (Dial.Recast rename)) (d.vacate i) (d'.vacate i) := by
  rw [Dial.vacate, Dial.vacate]
  obtain ⟨vacant, vacant'⟩ | ⟨e, e', held, held', same⟩ := rel_cases (h.occupant i)
  · rw [vacant, vacant']
    exact .none
  · rw [held, held']
    exact .some ⟨same, h.put i .none (congrArg (i :: ·) h.free) h.hand⟩

theorem place (h : d.Recast rename d') {e e' : Entry} (same : e.Recast rename e') :
    Option.Rel (Prod.RProd (· = ·) (Dial.Recast rename)) (d.place e) (d'.place e') := by
  rw [Dial.place, Dial.place, h.free]
  cases d.free with
  | nil => exact .none
  | cons top below => exact .some ⟨rfl, h.put top (.some same) rfl h.hand⟩

/-! ## The hand -/

theorem tick (h : d.Recast rename d') :
    Prod.RProd (Option.Rel (Entry.Recast rename)) (Dial.Recast rename) d.tick d'.tick := by
  have turned := h.turned
  rw [tick_eq, tick_eq, h.hand]
  obtain ⟨vacant, vacant'⟩ | ⟨e, e', held, held', same⟩ := rel_cases (h.occupant d.hand)
  · rw [vacant, vacant']
    exact ⟨.none, turned⟩
  · simp only [held, held', same.referenced]
    split
    · exact ⟨.none, turned.modify (fun same => same.unmark) d.hand⟩
    · exact ⟨.some same, h.put d.hand .none (congrArg (d.hand :: ·) h.free) turned.hand⟩

theorem sweep (h : d.Recast rename d') (moves : Nat) :
    Prod.RProd (Option.Rel (Entry.Recast rename)) (Dial.Recast rename)
      (d.sweep moves) (d'.sweep moves) := by
  -- Both hands take an entry out in the same move, since the bits on their way are the same.
  induction moves generalizing d d' with
  | zero => exact ⟨.none, h⟩
  | succ moves ih =>
    have moved := h.tick
    rw [Dial.sweep, Dial.sweep]
    generalize d.tick = next, d'.tick = next' at moved ⊢
    obtain ⟨found, rest⟩ := moved
    cases found with
    | none => exact ih rest
    | some same => exact ⟨.some same, rest⟩

theorem expel (h : d.Recast rename d') :
    Option.Rel (Prod.RProd (Entry.Recast rename) (Dial.Recast rename)) d.expel d'.expel := by
  have swept := h.sweep (2 * d.slots.size)
  rw [Dial.expel, Dial.expel, h.size_slots]
  generalize d.sweep _ = last, d'.sweep _ = last' at swept ⊢
  obtain ⟨found, rest⟩ := swept
  cases found with
  | none => exact .none
  | some same => exact .some ⟨same, rest⟩

end Recast

end Dial

/-! ## The index -/

namespace Renamed

variable {index index' : Std.ExtTreeMap String Nat}

theorem contains (h : Renamed rename index index') (key : String) :
    index'.contains (rename key) = index.contains key := by
  rw [Std.ExtTreeMap.contains_eq_isSome_getElem?, Std.ExtTreeMap.contains_eq_isSome_getElem?, h.slot]

theorem erase (h : Renamed rename index index') (distinct : Function.Injective rename) (key : String) :
    Renamed rename (index.erase key) (index'.erase (rename key)) where
  slot other := by
    simp only [Std.ExtTreeMap.getElem?_erase, Std.LawfulEqCmp.compare_eq_iff_eq, distinct.eq_iff, h.slot]
  size := by
    simp only [Std.ExtTreeMap.size_erase, h.contains, h.size]

theorem insert (h : Renamed rename index index') (distinct : Function.Injective rename) (key : String)
    (i : Nat) : Renamed rename (index.insert key i) (index'.insert (rename key) i) where
  slot other := by
    simp only [Std.ExtTreeMap.getElem?_insert, Std.LawfulEqCmp.compare_eq_iff_eq, distinct.eq_iff, h.slot]
  size := by
    simp only [Std.ExtTreeMap.size_insert, h.contains, h.size]

end Renamed

/-! ## Making room -/

namespace Recast

variable {c c' : Cache}

theorem size (h : c.Recast rename c') : c'.size = c.size :=
  h.index.size

theorem expel (h : c.Recast rename c') (distinct : Function.Injective rename) :
    Option.Rel (Prod.RProd (fun out out' => out' = out.recast rename) (Cache.Recast rename))
      c.expel c'.expel := by
  rw [Cache.expel, Cache.expel]
  obtain ⟨bare, bare'⟩ | ⟨_, _, left, left', @⟨e, dial, e', dial', same, dials⟩⟩ :=
    rel_cases h.dial.expel
  · rw [bare, bare']
    exact .none
  · rw [left, left']
    refine .some ⟨?_, ?_⟩
    · simp only [Eviction.recast, same.key, same.size, h.used]
    · simp only [same.key, same.size, h.used, h.tally]
      exact ⟨h.limits, h.index.erase distinct e.key, dials, rfl, rfl⟩

theorem expelUntil (h : c.Recast rename c') (distinct : Function.Injective rename)
    {fits : Cache → Bool} (blind : ∀ {c c'}, c.Recast rename c' → fits c' = fits c) (rounds : Nat) :
    Cleared rename (expelUntil fits rounds c) (Cache.expelUntil fits rounds c') := by
  -- Both loops see the same before each sweep, so they end in the same round.
  induction rounds generalizing c c' with
  | zero => exact ⟨rfl, h⟩
  | succ rounds ih =>
    rw [Cache.expelUntil, Cache.expelUntil, blind h]
    split
    · exact ⟨rfl, h⟩
    · obtain ⟨bare, bare'⟩ | ⟨_, _, left, left', ⟨rfl, same⟩⟩ := rel_cases (h.expel distinct)
      · rw [bare, bare']
        exact ⟨rfl, h⟩
      · obtain ⟨evicted, last⟩ := ih same
        rw [left, left']
        exact ⟨by simp only [evicted, List.map_cons], last⟩

theorem makeRoom (h : c.Recast rename c') (distinct : Function.Injective rename)
    {fits : Cache → Bool} (blind : ∀ {c c'}, c.Recast rename c' → fits c' = fits c) :
    Cleared rename (c.makeRoom fits) (c'.makeRoom fits) := by
  rw [Cache.makeRoom, Cache.makeRoom, Dial.capacity, Dial.capacity, h.dial.size_slots]
  exact h.expelUntil distinct blind _

theorem withinBytes (h : c.Recast rename c') : c'.withinBytes = c.withinBytes := by
  rw [Cache.withinBytes, Cache.withinBytes, h.used, h.limits.2]

theorem hasRoomFor (h : c.Recast rename c') (size : Nat) :
    c'.hasRoomFor size = c.hasRoomFor size := by
  rw [Cache.hasRoomFor, Cache.hasRoomFor, h.size, h.used, h.limits.1, h.limits.2]

/-! ## The calls -/

theorem find? (h : c.Recast rename c') (key : String) :
    Option.Rel (Prod.RProd (· = ·) (Entry.Recast rename)) (c.find? key) (c'.find? (rename key)) := by
  -- Both names lead to the same slot, and what stands there is recast.
  rw [Cache.find?, Cache.find?, h.index.slot]
  cases c.index[key]? with
  | none => exact .none
  | some i =>
    obtain ⟨vacant, vacant'⟩ | ⟨e, e', held, held', same⟩ := rel_cases (h.dial.occupant i)
    · rw [Option.bind_some, Option.bind_some, vacant, vacant']
      exact .none
    · rw [Option.bind_some, Option.bind_some, held, held']
      exact .some ⟨rfl, same⟩

theorem get (h : c.Recast rename c') (key : String) :
    Prod.RProd (fun found found' => found'.map ByteArray.size = found.map ByteArray.size)
      (Cache.Recast rename) (c.get key) (c'.get (rename key)) := by
  rw [Cache.get, Cache.get]
  obtain ⟨missing, missing'⟩ | ⟨_, _, found, found', @⟨i, e, _, e', rfl, same⟩⟩ :=
    rel_cases (h.find? key)
  · rw [missing, missing']
    exact ⟨rfl, h.limits, h.index, h.dial, h.used, congrArg Tally.miss h.tally⟩
  · rw [found, found']
    exact ⟨congrArg some same.length, h.limits, h.index, h.dial.modify (fun same => same.mark) i, h.used,
      congrArg Tally.hit h.tally⟩

theorem forget (h : c.Recast rename c') (distinct : Function.Injective rename) (key : String) :
    Prod.RProd (· = ·) (Cache.Recast rename) (c.forget key) (c'.forget (rename key)) := by
  rw [Cache.forget, Cache.forget, h.index.slot]
  cases c.index[key]? with
  | none => exact ⟨rfl, h⟩
  | some i =>
    have index := h.index.erase distinct key
    obtain ⟨vacant, vacant'⟩ | ⟨_, _, taken, taken', ⟨same, dials⟩⟩ := rel_cases (h.dial.vacate i)
    · simp only [vacant, vacant']
      exact ⟨rfl, h.limits, index, h.dial, h.used, h.tally⟩
    · simp only [taken, taken', same.size, h.used]
      exact ⟨rfl, h.limits, index, dials, rfl, congrArg Tally.eviction h.tally⟩

theorem reject (h : c.Recast rename c') (distinct : Function.Injective rename) (key : String) :
    (c.reject key).Recast rename (c'.reject (rename key)) := by
  have forgotten := h.forget distinct key
  rw [Cache.reject, Cache.reject]
  generalize c.forget key = one, c'.forget (rename key) = other at forgotten ⊢
  obtain ⟨-, dropped⟩ := forgotten
  exact ⟨rfl, rfl, dropped.limits, dropped.index, dropped.dial, dropped.used,
    congrArg Tally.rejection dropped.tally⟩

theorem replace (h : c.Recast rename c') (i : Nat) (length : value'.size = value.size) :
    (c.replace i value).Recast rename (c'.replace i value') := by
  rw [Cache.replace, Cache.replace]
  obtain ⟨vacant, vacant'⟩ | ⟨e, e', held, held', same⟩ := rel_cases (h.dial.occupant i)
  · rw [vacant, vacant']
    exact h
  · simp only [held, held', same.size, h.used, length]
    exact ⟨h.limits, h.index, h.dial.modify (fun same => same.renew length) i, rfl, h.tally⟩

theorem overwrite (h : c.Recast rename c') (distinct : Function.Injective rename) (i : Nat)
    (length : value'.size = value.size) :
    (c.overwrite i value).Recast rename (c'.overwrite i value') := by
  obtain ⟨evicted, cache⟩ := (h.replace i length).makeRoom distinct (fun same => same.withinBytes)
  exact ⟨rfl, evicted, cache⟩

theorem add (h : c.Recast rename c') (distinct : Function.Injective rename) (key : String)
    (length : value'.size = value.size) : (c.add key value).Recast rename (c'.add (rename key) value') := by
  obtain ⟨evicted, roomy⟩ :=
    h.makeRoom distinct (fun {_ _} (same : Cache.Recast rename _ _) => same.hasRoomFor value.size)
  rw [Cache.add, Cache.add, length]
  obtain ⟨full, full'⟩ | ⟨_, _, placed, placed', @⟨i, dial, _, dial', rfl, dials⟩⟩ :=
    rel_cases (roomy.dial.place (Entry.Recast.fresh key length))
  · simp only [full, full']
    exact ⟨rfl, evicted, roomy⟩
  · simp only [placed, placed', roomy.used]
    exact ⟨rfl, evicted, roomy.limits, roomy.index.insert distinct key i, dials, rfl, roomy.tally⟩

theorem set (h : c.Recast rename c') (distinct : Function.Injective rename) (key : String)
    (length : value'.size = value.size) : (c.set key value).Recast rename (c'.set (rename key) value') := by
  rw [Cache.set, Cache.set, length, h.limits.2, h.index.slot]
  split
  · exact h.reject distinct key
  · cases c.index[key]? with
    | some i => exact h.overwrite distinct i length
    | none => exact h.add distinct key length

theorem snapshot (h : c.Recast rename c') : c'.snapshot = c.snapshot := by
  rw [Cache.snapshot, Cache.snapshot, h.tally, h.size, h.used, h.limits.1, h.limits.2]

/-- Recast calls lead from recast caches to recast caches, with recast answers. -/
theorem step (h : c.Recast rename c') (distinct : Function.Injective rename) {call call' : Call}
    (same : call.Recast rename call') :
    (c.step call).1.Recast rename (c'.step call').1 ∧
      (c.step call).2.Recast rename (c'.step call').2 := by
  cases same with
  | get key =>
    have looked := h.get key
    rw [Cache.step, Cache.step]
    generalize c.get key = one, c'.get (rename key) = other at looked ⊢
    obtain ⟨lengths, next⟩ := looked
    exact ⟨.blob lengths, next⟩
  | set key length =>
    obtain ⟨verdict, evicted, next⟩ := h.set distinct key length
    rw [Cache.step, Cache.step, verdict, evicted]
    exact ⟨.placed _ _, next⟩
  | forget key =>
    have dropped := h.forget distinct key
    rw [Cache.step, Cache.step]
    generalize c.forget key = one, c'.forget (rename key) = other at dropped ⊢
    obtain ⟨rfl, next⟩ := dropped
    exact ⟨.flag _, next⟩
  | contains key =>
    rw [Cache.step, Cache.step, Cache.contains, Cache.contains, h.index.contains]
    exact ⟨.flag _, h⟩
  | isEmpty =>
    rw [Cache.step, Cache.step, Cache.isEmpty, Cache.isEmpty, h.size]
    exact ⟨.flag _, h⟩
  | snapshot =>
    rw [Cache.step, Cache.step, h.snapshot]
    exact ⟨.told _, h⟩

theorem transcript (h : c.Recast rename c') (distinct : Function.Injective rename)
    {calls calls' : List Call} (same : List.Forall₂ (Call.Recast rename) calls calls') :
    List.Forall₂ (Echoed rename) (c.transcript calls) (c'.transcript calls') := by
  induction same generalizing c c' with
  | nil => exact .nil
  | cons call calls ih =>
    obtain ⟨answer, next⟩ := h.step distinct call
    exact .cons ⟨answer, next.size, next.used, next.snapshot⟩ (ih next)

theorem evictions (h : c.Recast rename c') (distinct : Function.Injective rename)
    {calls calls' : List Call} (same : List.Forall₂ (Call.Recast rename) calls calls') :
    c'.evictions calls' = (c.evictions calls).map (Eviction.recast rename) := by
  induction same generalizing c c' with
  | nil => rfl
  | cons call calls ih =>
    obtain ⟨answer, next⟩ := h.step distinct call
    rw [Cache.evictions, Cache.evictions, List.map_append, ih next, answer.evicted]

end Recast

theorem recast_empty (rename : String → String) (capacity byteLimit : Nat) :
    (empty capacity byteLimit).Recast rename (empty capacity byteLimit) where
  limits := ⟨rfl, rfl⟩
  index := ⟨fun key => by simp [empty], rfl⟩
  dial := Dial.recast_empty rename capacity
  used := rfl
  tally := rfl

/-- If two new caches with the same limits receive the same calls under other names and with other
    bytes of the same lengths, every call has the same outcome in both, the same entries leave in
    the same order, and after every call both tell the same about themselves. -/
theorem bytes_unseen {rename : String → String} (distinct : Function.Injective rename)
    {capacity byteLimit : Nat} {c : Cache} (created : create capacity byteLimit = .ok c)
    {calls calls' : List Call} (same : List.Forall₂ (Call.Recast rename) calls calls') :
    List.Forall₂ (Echoed rename) (c.transcript calls) (c.transcript calls') ∧
      c.evictions calls' = (c.evictions calls).map (Eviction.recast rename) := by
  obtain ⟨-, rfl⟩ := create_eq_ok_iff.mp created
  have alike := recast_empty rename capacity byteLimit
  exact ⟨alike.transcript distinct same, alike.evictions distinct same⟩

/-- A run with a hit, a miss, an entry that grows at the cost of another one, a newcomer that takes
    the place of another one, and a value that is refused. -/
theorem bytes_unseen_of_prefix :
    let rename := fun key => "x" ++ key
    let c := empty 2 4
    let calls := [.set "a" ⟨#[1, 1]⟩, .get "a", .get "c", .set "b" ⟨#[2]⟩, .set "a" ⟨#[3, 3, 3, 3]⟩,
      .set "c" ⟨#[4]⟩, .set "c" ⟨#[5, 5, 5, 5, 5]⟩, .forget "c", .snapshot]
    let calls' := [.set "xa" ⟨#[6, 7]⟩, .get "xa", .get "xc", .set "xb" ⟨#[8]⟩,
      .set "xa" ⟨#[9, 8, 7, 6]⟩, .set "xc" ⟨#[5]⟩, .set "xc" ⟨#[4, 3, 2, 1, 0]⟩, .forget "xc", .snapshot]
    Function.Injective rename ∧ create 2 4 = .ok c ∧ List.Forall₂ (Call.Recast rename) calls calls' ∧
      c.evictions calls = [⟨"b", 1, 4⟩, ⟨"a", 4, 0⟩] ∧
      List.Forall₂ (Echoed rename) (c.transcript calls) (c.transcript calls') ∧
      c.evictions calls' = (c.evictions calls).map (Eviction.recast rename) := by
  intro rename c calls calls'
  have distinct : Function.Injective rename := by
    intro key other equal
    simpa [rename, String.ext_iff] using equal
  have created : create 2 4 = .ok c := rfl
  have same : List.Forall₂ (Call.Recast rename) calls calls' :=
    .cons (.set "a" rfl) <| .cons (.get "a") <| .cons (.get "c") <| .cons (.set "b" rfl) <|
      .cons (.set "a" rfl) <| .cons (.set "c" rfl) <| .cons (.set "c" rfl) <| .cons (.forget "c") <|
      .cons .snapshot .nil
  exact ⟨distinct, created, same, by decide +kernel, bytes_unseen distinct created same⟩

end BlobDepot.Cache
