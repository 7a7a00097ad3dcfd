import BlobDepot.Proofs.Depot.Faithful

/-! # Depots alongside each other

Two depots have the same cache and the same prefix, and their archives are related somehow.  If
reads and writes of related archives agree, and writes keep them related, then the two depots
answer alike to every call and to every sequence of calls (`Alongside.step`, `Alongside.run`),
since all that a call does to a depot follows from what its archive answered.

The writes may be limited to some full keys, by what the two archives are at that moment, and where
both archives fail it may be asked of the faults that they are the same, or less.
-/

namespace BlobDepot

/-- The same value, or faults of which something holds. -/
inductive Agree (F : Fault → Fault → Prop) {α : Type} : Except Fault α → Except Fault α → Prop where
  | ok (x : α) : Agree F (.ok x) (.ok x)
  | error {f f' : Fault} (related : F f f') : Agree F (.error f) (.error f')

variable {F : Fault → Fault → Prop} {α : Type} {r r' : Except Fault α}

theorem Agree.eq (agree : Agree Eq r r') : r = r' := by
  cases agree with
  | ok x => rfl
  | error same => rw [same]

theorem Agree.refl (refl : ∀ f, F f f) (r : Except Fault α) : Agree F r r := by
  cases r with
  | ok x => exact .ok x
  | error f => exact .error (refl f)

namespace Depot

open BlobKey

deriving instance DecidableEq for Answer

/-- The same kind of answer, with results that agree. -/
inductive Answer.Agree (F : Fault → Fault → Prop) : Answer → Answer → Prop where
  | fetched {r r' : Except Fault (Option Delivery)} (agree : BlobDepot.Agree F r r') :
    Answer.Agree F (.fetched r) (.fetched r')
  | stored {r r' : Except Fault Nat} (agree : BlobDepot.Agree F r r') :
    Answer.Agree F (.stored r) (.stored r')

/-- The answers to a sequence of calls. -/
def answers (d : Depot) : List Call → List Answer
  | [] => []
  | call :: calls => (d.step call).1 :: (d.step call).2.answers calls

/-- Reads of related archives agree, and so do writes under the full keys that the two archives
    admit, after which the archives are related again. -/
structure Bridges (F : Fault → Fault → Prop) (R : Archive → Archive → Prop)
    (admits : Archive → Archive → String → Prop) : Prop where
  refl : ∀ f, F f f
  read : ∀ {a a' : Archive} {full : String}, R a a' → Valid full →
    Agree F (a.read full) (a'.read full)
  write : ∀ {a a' : Archive} {full : String} (data : ByteArray), R a a' → Valid full →
    admits a a' full → Agree F (a.write full data).1 (a'.write full data).1 ∧
      R (a.write full data).2 (a'.write full data).2

/-- The same depot on related archives. -/
structure Alongside (R : Archive → Archive → Prop) (d d' : Depot) : Prop where
  archives : R d.archive d'.archive
  cache : d'.cache = d.cache
  keyPrefix : d'.keyPrefix = d.keyPrefix

variable {R : Archive → Archive → Prop} {admits : Archive → Archive → String → Prop}
variable {d d' : Depot} {full : String}

theorem Alongside.qualify_eq (along : Alongside R d d') (key : String) :
    d'.qualify key = d.qualify key := by
  rw [qualify, qualify, along.keyPrefix]

theorem Alongside.remember (along : Alongside R d d') (full : String) (data : ByteArray) :
    Alongside R (d.remember full data).2 (d'.remember full data).2 := by
  rw [remember_snd, remember_snd]
  exact ⟨along.archives, by rw [along.cache], along.keyPrefix⟩

/-! ## One call -/

theorem Alongside.fetch (along : Alongside R d d') (bridges : Bridges F R admits)
    (valid : Valid full) (use : CacheUse) :
    Agree F (d.fetch full use).result (d'.fetch full use).result ∧
      Alongside R (d.fetch full use).depot (d'.fetch full use).depot := by
  have read := bridges.read along.archives valid
  rw [Depot.fetch, Depot.fetch]
  generalize d.archive.read full = found at read ⊢
  generalize d'.archive.read full = found' at read ⊢
  cases read with
  | error related => exact ⟨.error related, along⟩
  | ok found =>
    cases found with
    | none => exact ⟨.ok none, along⟩
    | some data =>
      cases use with
      | around => exact ⟨.ok _, along⟩
      | through => exact ⟨.ok _, along.remember full data⟩

theorem Alongside.get (along : Alongside R d d') (bridges : Bridges F R admits) (key : String)
    (use : CacheUse) : Agree F (d.get key use).result (d'.get key use).result ∧
      Alongside R (d.get key use).depot (d'.get key use).depot := by
  rw [Depot.get, Depot.get, along.qualify_eq]
  cases qualified : d.qualify key with
  | error f => exact ⟨.error (bridges.refl f), along⟩
  | ok full =>
    obtain ⟨-, valid, rfl⟩ := qualify_eq_ok_iff.mp qualified
    cases use with
    | around => exact along.fetch bridges valid .around
    | through =>
      simp only [along.cache]
      cases d.cache.get (d.keyPrefix ++ key) with
      | mk found cache =>
        have seen : Alongside R { d with cache } { d' with cache } :=
          ⟨along.archives, rfl, along.keyPrefix⟩
        cases found with
        | some data => exact ⟨.ok _, seen⟩
        | none => exact seen.fetch bridges valid .through

theorem Alongside.put (along : Alongside R d d') (bridges : Bridges F R admits) {key : String}
    (admitted : ∀ full, d.qualify key = .ok full → admits d.archive d'.archive full)
    (data : ByteArray) (use : CacheUse) :
    Agree F (d.put key data use).result (d'.put key data use).result ∧
      Alongside R (d.put key data use).depot (d'.put key data use).depot := by
  rw [Depot.put, Depot.put, along.qualify_eq]
  cases qualified : d.qualify key with
  | error f => exact ⟨.error (bridges.refl f), along⟩
  | ok full =>
    have admitted := admitted full qualified
    obtain ⟨-, valid, rfl⟩ := qualify_eq_ok_iff.mp qualified
    obtain ⟨results, archives⟩ := bridges.write data along.archives valid admitted
    simp only
    generalize d.archive.write (d.keyPrefix ++ key) data = written at results archives ⊢
    generalize d'.archive.write (d.keyPrefix ++ key) data = written' at results archives ⊢
    obtain ⟨result, archive⟩ := written
    obtain ⟨result', archive'⟩ := written'
    simp only at results archives
    cases results with
    | error related => exact ⟨.error related, archives, along.cache, along.keyPrefix⟩
    | ok done =>
      have stored : Alongside R { d with archive } { d' with archive := archive' } :=
        ⟨archives, along.cache, along.keyPrefix⟩
      cases use with
      | around => exact ⟨.ok _, archives, by simp only [along.cache], along.keyPrefix⟩
      | through => exact ⟨.ok _, stored.remember _ data⟩

theorem Alongside.step (along : Alongside R d d') (bridges : Bridges F R admits) {call : Call}
    (admitted : ∀ key data use full, call = .put key data use → d.qualify key = .ok full →
      admits d.archive d'.archive full) :
    Answer.Agree F (d.step call).1 (d'.step call).1 ∧
      Alongside R (d.step call).2 (d'.step call).2 := by
  cases call with
  | get key use =>
    obtain ⟨agree, after⟩ := along.get bridges key use
    exact ⟨.fetched agree, after⟩
  | put key data use =>
    obtain ⟨agree, after⟩ := along.put bridges (fun full => admitted key data use full rfl) data use
    exact ⟨.stored agree, after⟩

/-! ## Many calls -/

/-- Each write of a sequence of calls is admitted when its turn comes, if its key is accepted. -/
def Admitted (admits : Archive → Archive → String → Prop) (d d' : Depot) (calls : List Call) : Prop :=
  ∀ front key data use back full, calls = front ++ .put key data use :: back →
    d.qualify key = .ok full → admits (d.run front).archive (d'.run front).archive full

theorem Admitted.head {call : Call} {calls : List Call}
    (admitted : Admitted admits d d' (call :: calls)) (key : String) (data : ByteArray)
    (use : CacheUse) (full : String) (same : call = .put key data use)
    (qualified : d.qualify key = .ok full) : admits d.archive d'.archive full :=
  admitted [] key data use calls full (by rw [same, List.nil_append]) qualified

theorem Admitted.tail {call : Call} {calls : List Call}
    (admitted : Admitted admits d d' (call :: calls)) :
    Admitted admits (d.step call).2 (d'.step call).2 calls := by
  intro front key data use back full split qualified
  rw [qualify, keyPrefix_step] at qualified
  exact admitted (call :: front) key data use back full (by rw [split, List.cons_append]) qualified

theorem Alongside.run (along : Alongside R d d') (bridges : Bridges F R admits) {calls : List Call}
    (admitted : Admitted admits d d' calls) :
    List.Forall₂ (Answer.Agree F) (d.answers calls) (d'.answers calls) ∧
      Alongside R (d.run calls) (d'.run calls) := by
  induction calls generalizing d d' with
  | nil => exact ⟨.nil, along⟩
  | cons call calls ih =>
    obtain ⟨agree, after⟩ := along.step bridges admitted.head
    obtain ⟨agrees, last⟩ := ih after admitted.tail
    exact ⟨.cons agree agrees, last⟩

end Depot

end BlobDepot
