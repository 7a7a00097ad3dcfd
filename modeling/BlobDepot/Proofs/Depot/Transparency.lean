import BlobDepot.Proofs.Depot.Faithful

/-! # What the cache cannot change

A call to a faithful depot answers what it would answer without any cache, up to the
word on where bytes came from, and makes the same of the archive (`Faithful.step_eq`).
What happens without a cache depends on the archive and the prefix alone, and not on
how the call uses the cache.  So two depots on the same archive go through the same
trees and give the same answers, however large their caches are and whichever calls go
around them.
-/

namespace BlobDepot.Depot

/-- The answer without the source of the bytes. -/
def Answer.unsourced : Answer → Answer
  | .fetched result =>
    .fetched (result.map (Option.map fun delivery => { delivery with source := .archive }))
  | .stored result => .stored result

/-- The same call, made around the cache. -/
def Call.around : Call → Call
  | .get key _ => .get key .around
  | .put key data _ => .put key data .around

/-- What a sequence of calls shows: the answer to each call but for the source of its
    bytes, and the tree after it. -/
def outcomes (d : Depot) : List Call → List (Answer × FileTree)
  | [] => []
  | call :: calls =>
    ((d.step call).1.unsourced, (d.step call).2.archive.tree) :: (d.step call).2.outcomes calls

/-- What a call would answer without a cache, and the archive after it. -/
def uncached (d : Depot) : Call → Answer × Archive
  | .get key _ =>
    (.fetched ((d.qualify key).bind fun full =>
      (d.archive.read full).map (Option.map (⟨·, .archive⟩))), d.archive)
  | .put key data _ =>
    match d.qualify key with
    | .error f => (.stored (.error f), d.archive)
    | .ok full =>
      let (result, archive) := d.archive.write full data
      (.stored (result.map fun _ => data.size), archive)

variable {d d' : Depot}

/-- A depot without its cache and a call without its cache use say all that the uncached
    answer depends on. -/
theorem uncached_congr (archive : d.archive = d'.archive) (keyPrefix : d.keyPrefix = d'.keyPrefix)
    {call call' : Call} (same : call.around = call'.around) :
    d.uncached call = d'.uncached call' := by
  have qualify_eq : ∀ key, d.qualify key = d'.qualify key := fun key => by
    rw [qualify, qualify, keyPrefix]
  cases call with
  | get key use =>
    cases call' with
    | get key' use' =>
      cases same
      simp only [uncached, qualify_eq, archive]
    | put key' data' use' => cases same
  | put key data use =>
    cases call' with
    | get key' use' => cases same
    | put key' data' use' =>
      cases same
      simp only [uncached, qualify_eq, archive]

/-- The cache of a faithful depot shows in nothing but the source of the bytes. -/
theorem Faithful.step_eq (faithful : d.Faithful) (call : Call) :
    ((d.step call).1.unsourced, (d.step call).2.archive) = d.uncached call := by
  cases call with
  | get key use =>
    obtain ⟨cache, same⟩ := get_depot d key use
    have archive_eq : (d.get key use).depot.archive = d.archive := by rw [same]
    have result_eq : (Answer.fetched (d.get key use).result).unsourced =
        .fetched ((d.qualify key).bind fun full =>
          (d.archive.read full).map (Option.map (⟨·, .archive⟩))) := by
      cases qualified : d.qualify key with
      | error f =>
        rw [get_result_of_error qualified]
        rfl
      | ok full =>
        obtain ⟨source, result⟩ := faithful.get_result qualified use
        rw [result]
        cases read : d.archive.read full with
        | error f => simp [Answer.unsourced, Except.bind, Except.map, read]
        | ok found => cases found <;> simp [Answer.unsourced, Except.bind, Except.map, read]
    exact Prod.ext result_eq archive_eq
  | put key data use =>
    have result := put_result d key data use
    have archive := archive_put d key data use
    show ((Answer.stored (d.put key data use).result).unsourced,
      (d.put key data use).depot.archive) = _
    rw [result, archive, uncached]
    cases d.qualify key with
    | error f => rfl
    | ok full =>
      simp only [Except.bind]
      cases d.archive.write full data with
      | mk result archive => rfl

/-- Faithful depots on the same archive cannot be told apart by calls that differ in
    nothing but their use of the cache. -/
theorem Faithful.outcomes_eq (faithful : d.Faithful) (faithful' : d'.Faithful)
    (archive : d.archive = d'.archive) (keyPrefix : d.keyPrefix = d'.keyPrefix)
    {calls calls' : List Call} (same : calls.map Call.around = calls'.map Call.around) :
    d.outcomes calls = d'.outcomes calls' := by
  induction calls generalizing d d' calls' with
  | nil =>
    cases calls' with
    | nil => rfl
    | cons call' calls' => cases same
  | cons call calls ih =>
    cases calls' with
    | nil => cases same
    | cons call' calls' =>
      rw [List.map_cons, List.map_cons, List.cons.injEq] at same
      have agree : ((d.step call).1.unsourced, (d.step call).2.archive) =
          ((d'.step call').1.unsourced, (d'.step call').2.archive) := by
        rw [faithful.step_eq, faithful'.step_eq, uncached_congr archive keyPrefix same.1]
      obtain ⟨answers, archives⟩ := Prod.mk.inj agree
      have prefixes : (d.step call).2.keyPrefix = (d'.step call').2.keyPrefix := by
        rw [keyPrefix_step, keyPrefix_step, keyPrefix]
      rw [outcomes, outcomes, answers, archives,
        ih (faithful.step call) (faithful'.step call') archives prefixes same.2]

/-- Take two depots, opened on the same tree with settings that differ in the limits of
    the cache only, and two sequences of calls that differ in the use of the cache only.
    Call by call they answer the same and leave the same tree behind. -/
theorem limits_unseen {settings : Settings} {entryLimit byteLimit : Nat} {t : FileTree}
    (fresh : Fresh settings t d) (fresh' : Fresh { settings with entryLimit, byteLimit } t d')
    {calls calls' : List Call} (same : calls.map Call.around = calls'.map Call.around) :
    d.outcomes calls = d'.outcomes calls' := by
  obtain ⟨_, opened, _, keyPrefix⟩ := fresh.parts
  obtain ⟨_, opened', _, keyPrefix'⟩ := fresh'.parts
  have archive : d.archive = d'.archive := Except.ok.inj (opened.symm.trans opened')
  exact fresh.faithful.outcomes_eq fresh'.faithful archive (keyPrefix.trans keyPrefix'.symm) same

/-- The first cache serves the old bytes until the write around it drops them; the second
    one holds nothing. -/
theorem limits_unseen_of_overwrite :
    let settings : Settings := { directory := "blobs", entryLimit := 1, byteLimit := 2 }
    let calls : List Call := [.put "k" ⟨#[1]⟩ .through, .get "k" .through,
      .put "k" ⟨#[2, 3]⟩ .around, .get "k" .through, .get ".k" .through]
    let calls' : List Call := [.put "k" ⟨#[1]⟩ .around, .get "k" .through,
      .put "k" ⟨#[2, 3]⟩ .through, .get "k" .around, .get ".k" .around]
    ∃ d d', Fresh settings .empty d ∧
      Fresh { settings with entryLimit := 9, byteLimit := 0 } .empty d' ∧
      d.outcomes calls = d'.outcomes calls' := by
  intro settings calls calls'
  obtain ⟨d, fresh⟩ : ∃ d, Fresh settings .empty d := exists_fresh (by decide +kernel)
  obtain ⟨d', fresh'⟩ : ∃ d, Fresh { settings with entryLimit := 9, byteLimit := 0 } .empty d :=
    exists_fresh (by decide +kernel)
  exact ⟨d, d', fresh, fresh', limits_unseen fresh fresh' rfl⟩

end BlobDepot.Depot
