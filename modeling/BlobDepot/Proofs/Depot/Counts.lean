import BlobDepot.Proofs.Cache.Balance
import BlobDepot.Proofs.Depot.Faithful

/-! # What calls to a depot count

The counters of the cache are changed deep inside a call, but each change shows in the
result of the call: a hit in the source of the bytes, a miss in a look-up that has any other
result, and a refused blob in its size.
-/

namespace BlobDepot

/-- What happened between two tallies, evictions aside. -/
structure Cache.Tally.Grew (before after : Cache.Tally) (hits misses rejections : Nat) : Prop where
  hits : after.hits = before.hits + hits
  misses : after.misses = before.misses + misses
  rejections : after.rejections = before.rejections + rejections

theorem Cache.Tally.Grew.refl (t : Cache.Tally) : t.Grew t 0 0 0 :=
  ⟨rfl, rfl, rfl⟩

theorem Cache.Tally.Grew.trans {t t' t'' : Cache.Tally} {h m r h' m' r' : Nat} (first : t.Grew t' h m r)
    (second : t'.Grew t'' h' m' r') : t.Grew t'' (h + h') (m + m') (r + r') := by
  refine ⟨?_, ?_, ?_⟩
  · rw [second.hits, first.hits, Nat.add_assoc]
  · rw [second.misses, first.misses, Nat.add_assoc]
  · rw [second.rejections, first.rejections, Nat.add_assoc]

namespace Depot

/-- Bytes that came from the cache. -/
def fromCache : Except Fault (Option Delivery) → Bool
  | .ok (some ⟨_, .cache⟩) => true
  | _ => false

/-- Bytes that came from the archive and are more than some limit. -/
def largeRead (limit : Nat) : Except Fault (Option Delivery) → Bool
  | .ok (some ⟨data, .archive⟩) => limit < data.size
  | _ => false

variable {d : Depot} {key full : String}

theorem tally_remember (consistent : d.cache.Consistent) (full : String) (data : ByteArray) :
    d.cache.tally.Grew (d.remember full data).2.cache.tally 0 0
      (decide (d.cache.byteLimit < data.size)).toNat := by
  obtain ⟨tally, -⟩ := consistent.set_counts full data
  rw [consistent.refuses_set] at tally
  rw [remember_snd]
  simp only [tally]
  exact ⟨rfl, rfl, rfl⟩

theorem tally_fetch (consistent : d.cache.Consistent) (full : String) :
    fromCache (d.fetch full .through).result = false ∧
      d.cache.tally.Grew (d.fetch full .through).depot.cache.tally 0 0
        (largeRead d.cache.byteLimit (d.fetch full .through).result).toNat := by
  rw [fetch]
  cases d.archive.read full with
  | error f => exact ⟨rfl, .refl _⟩
  | ok found =>
    cases found with
    | none => exact ⟨rfl, .refl _⟩
    | some data => exact ⟨rfl, tally_remember consistent full data⟩

/-- A look-up through the cache counts as a hit or as a miss, and what it reads from the
    archive may be refused. -/
theorem tally_get_through (coherent : d.cache.Coherent) (qualified : d.qualify key = .ok full) :
    d.cache.tally.Grew (d.get key .through).depot.cache.tally
      (fromCache (d.get key .through).result).toNat (!fromCache (d.get key .through).result).toNat
      (largeRead d.cache.byteLimit (d.get key .through).result).toNat := by
  have tally := Cache.tally_get d.cache full
  have seen := (coherent.get full).toConsistent
  have limits := Cache.sameLimits_get d.cache full
  simp only [get, qualified]
  cases looked : d.cache.get full with
  | mk found cache =>
    rw [looked] at tally seen limits
    simp only at tally seen limits
    cases found with
    | some data =>
      simp only [tally]
      exact ⟨rfl, rfl, rfl⟩
    | none =>
      obtain ⟨elsewhere, later⟩ := tally_fetch (d := { d with cache }) seen full
      simp only [tally, limits.2] at later
      simp only [elsewhere]
      exact ⟨later.hits, later.misses, later.rejections⟩

theorem get_of_error {f : Fault} (refused : d.qualify key = .error f) (use : CacheUse) :
    d.get key use = ⟨.error f, [], d⟩ := by
  rw [get, refused]

theorem get_around (d : Depot) (key : String) :
    (d.get key .around).depot = d ∧ fromCache (d.get key .around).result = false := by
  rw [get]
  cases d.qualify key with
  | error f => exact ⟨rfl, rfl⟩
  | ok full =>
    simp only [fetch]
    cases d.archive.read full with
    | error f => exact ⟨rfl, rfl⟩
    | ok found => cases found <;> exact ⟨rfl, rfl⟩

/-- A blob is found in the cache if the look-up goes through it and the full key is there. -/
theorem fromCache_get_through (coherent : d.cache.Coherent) (qualified : d.qualify key = .ok full) :
    fromCache (d.get key .through).result = d.cache.contains full := by
  have held := coherent.toConsistent.isSome_value? full
  rw [← Cache.get_fst] at held
  rw [← held, get, qualified]
  simp only
  cases looked : d.cache.get full with
  | mk found cache =>
    cases found with
    | some data => rfl
    | none =>
      have seen := (coherent.get full).toConsistent
      rw [looked] at seen
      exact (tally_fetch (d := { d with cache }) seen full).1

/-- A write counts if it goes through the cache, works and is refused there. -/
theorem tally_put (coherent : d.cache.Coherent) (key : String) (data : ByteArray) (use : CacheUse) :
    d.cache.tally.Grew (d.put key data use).depot.cache.tally 0 0
      (decide (use = .through) && (d.put key data use).result.toBool &&
        decide (d.cache.byteLimit < data.size)).toNat := by
  rw [put]
  cases d.qualify key with
  | error f => simpa [Except.toBool] using Cache.Tally.Grew.refl _
  | ok full =>
    simp only
    cases d.archive.write full data with
    | mk result archive =>
      cases result with
      | error f => simpa [Except.toBool] using Cache.Tally.Grew.refl _
      | ok done =>
        cases use with
        | around =>
          obtain ⟨-, tally, -⟩ := coherent.toConsistent.forget_counts full
          simp only [tally]
          split <;> exact ⟨rfl, rfl, rfl⟩
        | through =>
          have grew := tally_remember (d := { d with archive }) coherent.toConsistent full data
          simpa [Except.toBool] using grew

/-! ## The limits of the cache -/

theorem sameLimits_fetch (consistent : d.cache.Consistent) (full : String) (use : CacheUse) :
    d.cache.SameLimits (d.fetch full use).depot.cache := by
  rw [fetch]
  split
  · exact ⟨rfl, rfl⟩
  · exact ⟨rfl, rfl⟩
  · cases use with
    | around => exact ⟨rfl, rfl⟩
    | through => exact Cache.sameLimits_set consistent full _

theorem sameLimits_get (coherent : d.cache.Coherent) (key : String) (use : CacheUse) :
    d.cache.SameLimits (d.get key use).depot.cache := by
  rw [get]
  split
  · exact ⟨rfl, rfl⟩
  · rename_i full qualified
    cases use with
    | around => exact sameLimits_fetch coherent.toConsistent full .around
    | through =>
      have limits := Cache.sameLimits_get d.cache full
      have seen := (coherent.get full).toConsistent
      simp only
      split
      · rename_i data cache hit
        rwa [hit] at limits
      · rename_i cache miss
        rw [miss] at limits seen
        exact limits.trans (sameLimits_fetch (d := { d with cache }) seen full .through)

theorem sameLimits_put (consistent : d.cache.Consistent) (key : String) (data : ByteArray)
    (use : CacheUse) : d.cache.SameLimits (d.put key data use).depot.cache := by
  rw [put]
  split
  · exact ⟨rfl, rfl⟩
  · rename_i full qualified
    split
    · exact ⟨rfl, rfl⟩
    · cases use with
      | around => exact Cache.sameLimits_forget d.cache full
      | through => exact Cache.sameLimits_set consistent full data

theorem sameLimits_step (coherent : d.cache.Coherent) (call : Call) :
    d.cache.SameLimits (d.step call).2.cache := by
  cases call with
  | get key use => exact sameLimits_get coherent key use
  | put key data use => exact sameLimits_put coherent.toConsistent key data use

end Depot

end BlobDepot
