import BlobDepot.Cache.Basic

/-! # Runs of a cache

The calls that a cache can receive as values, what each answers, and the state
that a sequence of calls leads to.  `Cache.run` is the fold of `Cache.step`, so
what every step keeps, every run keeps.
-/

namespace BlobDepot.Cache

inductive Call where
  | get (key : String)
  | set (key : String) (value : ByteArray)
  | forget (key : String)
  | contains (key : String)
  | isEmpty
  | snapshot
  deriving DecidableEq

inductive Answer where
  | blob (found : Option ByteArray)
  | placed (verdict : Verdict) (evicted : List Eviction)
  | flag (b : Bool)
  | told (s : Snapshot)
  deriving DecidableEq

/-- The entries that the hand took out during a call. -/
def Answer.evicted : Answer → List Eviction
  | .placed _ evicted => evicted
  | _ => []

/-- One call: its answer and the cache after it. -/
def step (c : Cache) : Call → Answer × Cache
  | .get key =>
    let (found, next) := c.get key
    (.blob found, next)
  | .set key value =>
    let placement := c.set key value
    (.placed placement.verdict placement.evicted, placement.cache)
  | .forget key =>
    let (dropped, next) := c.forget key
    (.flag dropped, next)
  | .contains key => (.flag (c.contains key), c)
  | .isEmpty => (.flag c.isEmpty, c)
  | .snapshot => (.told c.snapshot, c)

def run (c : Cache) (calls : List Call) : Cache :=
  calls.foldl (fun c call => (c.step call).2) c

@[simp] theorem run_nil (c : Cache) : c.run [] = c := rfl

@[simp] theorem run_cons (c : Cache) (call : Call) (calls : List Call) :
    c.run (call :: calls) = (c.step call).2.run calls := rfl

theorem run_append (c : Cache) (first second : List Call) :
    c.run (first ++ second) = (c.run first).run second := by
  simp [run, List.foldl_append]

/-- What each call of a sequence answers, with the cache after it. -/
def transcript (c : Cache) : List Call → List (Answer × Cache)
  | [] => []
  | call :: calls => c.step call :: transcript (c.step call).2 calls

/-- The entries that the hand takes out during a sequence of calls, in order. -/
def evictions (c : Cache) : List Call → List Eviction
  | [] => []
  | call :: calls => (c.step call).1.evicted ++ evictions (c.step call).2 calls

/-- A cache to which some sequence of calls leads from an empty one with at least
    one slot. -/
def Reachable (c : Cache) : Prop :=
  ∃ capacity byteLimit calls, 0 < capacity ∧ c = (empty capacity byteLimit).run calls

theorem Reachable.step {c : Cache} (h : c.Reachable) (call : Call) :
    (c.step call).2.Reachable := by
  obtain ⟨capacity, byteLimit, calls, hpos, rfl⟩ := h
  exact ⟨capacity, byteLimit, calls ++ [call], hpos, by simp [run_append]⟩

end BlobDepot.Cache
