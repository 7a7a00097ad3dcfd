import BlobDepot.Decimal.Shortest
import BlobDepot.Text.Json

/-! # What a cache tells about itself

A tally of four counters that only grow, and a snapshot that shows the tally next
to what the cache holds and may hold.
-/

namespace BlobDepot.Cache

/-- What has happened in a cache since it was made. -/
structure Tally where
  hits : Nat := 0
  misses : Nat := 0
  evictions : Nat := 0
  rejections : Nat := 0
  deriving DecidableEq, Repr

namespace Tally

def hit (t : Tally) : Tally :=
  { t with hits := t.hits + 1 }

def miss (t : Tally) : Tally :=
  { t with misses := t.misses + 1 }

def eviction (t : Tally) : Tally :=
  { t with evictions := t.evictions + 1 }

def rejection (t : Tally) : Tally :=
  { t with rejections := t.rejections + 1 }

/-- The share of look-ups that found their key; zero if there was none. -/
def hitRate (t : Tally) : Decimal.Binary64 :=
  let lookups := t.hits + t.misses
  if lookups = 0 then .zero
  else Decimal.Binary64.quotient (.ofNat t.hits) (.ofNat lookups)

end Tally

/-- A snapshot of a cache: its tally, what it holds and what it may hold. -/
structure Snapshot where
  tally : Tally := {}
  entries : Nat := 0
  used : Nat := 0
  capacity : Nat := 0
  byteLimit : Nat := 0
  deriving DecidableEq, Repr

namespace Snapshot

/-- The fields of a snapshot as they are published. -/
def fields (s : Snapshot) : List (String × Text.Json.Value) := [
  ("hits", .count s.tally.hits),
  ("misses", .count s.tally.misses),
  ("evictions", .count s.tally.evictions),
  ("rejections", .count s.tally.rejections),
  ("total_entries", .count s.entries),
  ("mem_used", .count s.used),
  ("capacity", .count s.capacity),
  ("mem_limit", .count s.byteLimit)]

def json (s : Snapshot) : String :=
  Text.Json.object s.fields

/-- A snapshot as a JSON object that also tells the hit rate. -/
def jsonWithRate (s : Snapshot) : String :=
  Text.Json.object (s.fields ++ [("hit_rate", .decimal s.tally.hitRate.render)])

end Snapshot

end BlobDepot.Cache
