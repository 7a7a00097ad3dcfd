import BlobDepot.Proofs.Cache.Contents

/-! # The latest value

The slots of a cache are used again and again, and the index leads to them by number only.
Even so a key is never answered with the bytes of another key, or with bytes that were
replaced: `Coherent.value?_run` says exactly what a cache holds after a sequence of calls.

A value gets under a key by a `set` that stores it (`Cache.Latest`), and from then on it
stays there as long as it is left alone (`Cache.LeftAlone`): the key is neither set anew nor
forgotten, and the hand does not take it out.  One call makes one step of this
(`Coherent.value?_step`), and a run is an induction over its calls.
-/

namespace BlobDepot.Cache

/-- The call sets `k` anew or forgets it, whatever comes of that. -/
def Call.Supersedes (k : String) : Call → Prop
  | .set key _ | .forget key => key = k
  | .get _ | .contains _ | .isEmpty | .snapshot => False

/-- Nothing in a sequence of calls takes the value under `k` away. -/
def LeftAlone (c : Cache) (k : String) (calls : List Call) : Prop :=
  (∀ call ∈ calls, ¬ call.Supersedes k) ∧ ∀ out ∈ c.evictions calls, out.key ≠ k

/-- The most recent `set` of `k` in a sequence of calls was of `v` and stored it.  The key was
    not forgotten since, and the hand has not taken it out, also not during that `set`. -/
def Latest (c : Cache) (k : String) (v : ByteArray) (calls : List Call) : Prop :=
  ∃ before after, calls = before ++ .set k v :: after ∧
    ((c.run before).set k v).verdict = .stored ∧
    (∀ call ∈ after, ¬ call.Supersedes k) ∧
    ∀ out ∈ (c.run before).evictions (.set k v :: after), out.key ≠ k

variable {c : Cache} {k : String} {v : ByteArray} {call : Call} {calls : List Call}

/-! ## The first call of a sequence -/

theorem leftAlone_nil : c.LeftAlone k [] := by
  simp [LeftAlone, evictions]

theorem leftAlone_cons : c.LeftAlone k (call :: calls) ↔
    (¬ call.Supersedes k ∧ ∀ out ∈ (c.step call).1.evicted, out.key ≠ k) ∧
      (c.step call).2.LeftAlone k calls := by
  simp only [LeftAlone, evictions, List.forall_mem_cons, List.forall_mem_append]
  tauto

theorem not_latest_nil : ¬ c.Latest k v [] := by
  intro latest
  obtain ⟨before, after, split, _⟩ := latest
  cases before <;> cases split

theorem latest_cons : c.Latest k v (call :: calls) ↔
    (call = .set k v ∧ (c.set k v).verdict = .stored ∧
      (∀ out ∈ (c.step call).1.evicted, out.key ≠ k) ∧ (c.step call).2.LeftAlone k calls) ∨
    (c.step call).2.Latest k v calls := by
  constructor
  · intro latest
    obtain ⟨before, after, split, stored, alone, kept⟩ := latest
    -- The latest `set` is the first call if and only if nothing comes before it.
    cases before with
    | nil =>
      cases split
      rw [evictions, List.forall_mem_append] at kept
      exact .inl ⟨rfl, stored, kept.1, alone, kept.2⟩
    | cons first before =>
      cases split
      exact .inr ⟨before, after, rfl, stored, alone, kept⟩
  · intro given
    obtain ⟨rfl, stored, kept, alone, kept'⟩ | ⟨before, after, rfl, rest⟩ := given
    · refine ⟨[], calls, rfl, stored, alone, ?_⟩
      rw [evictions, List.forall_mem_append]
      exact ⟨kept, kept'⟩
    · exact ⟨call :: before, after, rfl, rest⟩

/-! ## One call and many -/

/-- What one call does to the value under a key. -/
theorem Coherent.value?_step (h : c.Coherent) (call : Call) :
    (c.step call).2.value? k = some v ↔
      (∀ out ∈ (c.step call).1.evicted, out.key ≠ k) ∧
        (call = .set k v ∧ (c.set k v).verdict = .stored ∨
          ¬ call.Supersedes k ∧ c.value? k = some v) := by
  cases call with
  | get key =>
    change (c.get key).2.value? k = some v ↔ _
    rw [value?_get h]
    simp [Cache.step, Answer.evicted, Call.Supersedes]
  | set key value =>
    change (c.set key value).cache.value? k = some v ↔ _
    rw [h.value?_set_iff]
    apply and_congr_right
    intro _
    simp only [Call.Supersedes, Call.set.injEq]
    constructor
    · intro given
      obtain ⟨stored, rfl, rfl⟩ | ⟨other, cached⟩ := given
      · exact .inl ⟨⟨rfl, rfl⟩, stored⟩
      · exact .inr ⟨Ne.symm other, cached⟩
    · intro given
      obtain ⟨⟨rfl, rfl⟩, stored⟩ | ⟨other, cached⟩ := given
      · exact .inl ⟨stored, rfl, rfl⟩
      · exact .inr ⟨Ne.symm other, cached⟩
  | forget key =>
    change (c.forget key).2.value? k = some v ↔ _
    rw [h.toConsistent.value?_forget]
    simp [Cache.step, Answer.evicted, Call.Supersedes, eq_comm]
  | contains _ | isEmpty | snapshot => simp [Cache.step, Answer.evicted, Call.Supersedes]

/-- What a cache holds after a sequence of calls: the latest value that was set and left alone
    since, or what it held before if that was left alone all the time. -/
theorem Coherent.value?_run (h : c.Coherent) : (c.run calls).value? k = some v ↔
    c.Latest k v calls ∨ (c.value? k = some v ∧ c.LeftAlone k calls) := by
  induction calls generalizing c with
  | nil => simp [not_latest_nil, leftAlone_nil]
  | cons call calls ih =>
    rw [run_cons, ih (h.step call).1, h.value?_step, latest_cons, leftAlone_cons]
    tauto

theorem Coherent.absent_of_not_set (h : c.Coherent) (absent : c.value? k = none)
    (unset : ∀ v, .set k v ∉ calls) : (c.run calls).value? k = none := by
  refine Option.eq_none_iff_forall_ne_some.mpr fun v cached => ?_
  obtain ⟨before, after, rfl, _⟩ | ⟨cached', _⟩ := h.value?_run.mp cached
  · exact unset v (by simp)
  · rw [absent] at cached'
    cases cached'

/-- A call that supersedes a key without storing it leaves nothing under it. -/
theorem Coherent.absent_step_of_supersedes (h : c.Coherent) (supersedes : call.Supersedes k)
    (unstored : ∀ v, call = .set k v → (c.set k v).verdict = .rejected) :
    (c.step call).2.value? k = none := by
  refine Option.eq_none_iff_forall_ne_some.mpr fun v cached => ?_
  obtain ⟨_, ⟨rfl, stored⟩ | ⟨alone, _⟩⟩ := (h.value?_step call).mp cached
  · rw [unstored v rfl] at stored
    cases stored
  · exact alone supersedes

/-! ## New caches -/

/-- What a look-up of `k` answers after a sequence of calls to a new cache. -/
structure ServesLatest (c : Cache) (calls : List Call) (k : String) : Prop where
  found : ∀ v, ((c.run calls).get k).1 = some v ↔ c.Latest k v calls
  unset : (∀ v, .set k v ∉ calls) → ((c.run calls).get k).1 = none
  refused : ∀ before v after, calls = before ++ .set k v :: after →
    ((c.run before).set k v).verdict = .rejected → (∀ w, .set k w ∉ after) →
    ((c.run calls).get k).1 = none
  forgotten : ∀ before after, calls = before ++ .forget k :: after → (∀ w, .set k w ∉ after) →
    ((c.run calls).get k).1 = none
  contained : (c.run calls).contains k = ((c.run calls).get k).1.isSome

/-- After any calls to a new cache a key is found if and only if its most recent `set` stored
    it, it was not forgotten since and the hand has not taken it out, and then the answer is
    the value of that `set`.  So nothing is found under a key that was never set, was refused
    last, or was forgotten last; and a key is contained if and only if it would be found. -/
theorem serves_latest {capacity byteLimit : Nat} {c : Cache}
    (created : create capacity byteLimit = .ok c) (calls : List Call) (k : String) :
    c.ServesLatest calls k := by
  obtain ⟨positive, rfl⟩ := create_eq_ok_iff.mp created
  have coherent := coherent_empty positive byteLimit
  have vacant : (empty capacity byteLimit).value? k = none := value?_empty ..
  -- What a call has taken away stays away until the key is set again.
  have absent_after : ∀ before call after, calls = before ++ call :: after → call.Supersedes k →
      (∀ v, call = .set k v →
        (((empty capacity byteLimit).run before).set k v).verdict = .rejected) →
      (∀ w, .set k w ∉ after) → ((empty capacity byteLimit).run calls).value? k = none := by
    intro before call after split supersedes unstored unset
    have earlier := (coherent.run before).1
    rw [split, run_append, run_cons]
    exact (earlier.step call).1.absent_of_not_set
      (earlier.absent_step_of_supersedes supersedes unstored) unset
  constructor
  · intro v
    rw [get_fst, coherent.value?_run, vacant]
    simp
  · intro unset
    rw [get_fst]
    exact coherent.absent_of_not_set vacant unset
  · intro before v after split rejected unset
    rw [get_fst]
    apply absent_after before (.set k v) after split rfl _ unset
    intro w same
    cases same
    exact rejected
  · intro before after split unset
    rw [get_fst]
    apply absent_after before (.forget k) after split rfl _ unset
    intro w same
    cases same
  · rw [get_fst, (coherent.run calls).1.toConsistent.isSome_value?]

/-- One slot after the other is used for `b`, `c` and `d`: of these `b` was forgotten, `c` was
    refused, and `d` is found with its own bytes, as is `a` with those of its second `set`. -/
theorem serves_latest_of_reuse :
    let c := empty 2 4
    let calls := [.set "a" ⟨#[1]⟩, .set "b" ⟨#[2, 2]⟩, .set "a" ⟨#[3]⟩, .forget "b",
      .set "c" ⟨#[4, 4]⟩, .set "c" ⟨#[5, 5, 5, 5, 5]⟩, .set "d" ⟨#[6]⟩]
    create 2 4 = .ok c ∧ c.ServesLatest calls "a" ∧ c.ServesLatest calls "c" ∧
      c.ServesLatest calls "d" ∧ ((c.run calls).get "a").1 = some ⟨#[3]⟩ ∧
      ((c.run calls).get "c").1 = none ∧ ((c.run calls).get "d").1 = some ⟨#[6]⟩ := by
  intro c calls
  have created : create 2 4 = .ok c := rfl
  refine ⟨created, serves_latest created calls "a", serves_latest created calls "c",
    serves_latest created calls "d", ?_, ?_, ?_⟩ <;> decide +kernel

end BlobDepot.Cache
