import Std.Data.ExtTreeMap
import BlobDepot.Cache.Dial
import BlobDepot.Cache.Tally
import BlobDepot.Fault

/-! # The bounded cache

A cache of blobs with two limits: the number of entries and the number of bytes.
An index finds the slot of a key; the dial decides who has to leave when a limit
would be exceeded.

Each operation returns the cache after it.  `Cache.set` also reports the entries
that the hand took out, in the order in which they left.  An entry that is
replaced, forgotten, or dropped because its successor is too large is not among
them.
-/

namespace BlobDepot

/-- A cache: its limits, the slot of each key, the slots, the bytes in use, and what
    has happened so far. -/
structure Cache where
  capacity : Nat
  byteLimit : Nat
  index : Std.ExtTreeMap String Nat
  dial : Cache.Dial
  used : Nat
  tally : Cache.Tally

namespace Cache

/-- An entry that the hand took out: its key, its size, and the bytes in use after
    it left. -/
structure Eviction where
  key : String
  size : Nat
  usedAfter : Nat
  deriving DecidableEq, Repr

/-- Whether a blob offered to the cache was taken. -/
inductive Verdict where
  | stored
  | rejected
  deriving DecidableEq, Repr

/-- What offering a blob to the cache led to. -/
structure Placement where
  verdict : Verdict
  evicted : List Eviction
  cache : Cache

/-! ## Making a cache and asking it -/

/-- A cache with nothing in it. -/
def empty (capacity byteLimit : Nat) : Cache where
  capacity
  byteLimit
  index := ∅
  dial := .empty capacity
  used := 0
  tally := {}

/-- A cache with nothing in it.  One without any slot is refused. -/
def create (capacity byteLimit : Nat) : Except Fault Cache :=
  if capacity = 0 then .error ⟨.badSetup, "cache capacity must be greater than 0"⟩
  else .ok (empty capacity byteLimit)

def size (c : Cache) : Nat :=
  c.index.size

def isEmpty (c : Cache) : Bool :=
  c.size == 0

def contains (c : Cache) (key : String) : Bool :=
  c.index.contains key

def find? (c : Cache) (key : String) : Option (Nat × Entry) :=
  c.index[key]?.bind fun i => (c.dial.occupant? i).map (i, ·)

def snapshot (c : Cache) : Snapshot where
  tally := c.tally
  entries := c.size
  used := c.used
  capacity := c.capacity
  byteLimit := c.byteLimit

/-! ## Looking up and forgetting -/

/-- Looks a key up, which counts as a use of its entry. -/
def get (c : Cache) (key : String) : Option ByteArray × Cache :=
  match c.find? key with
  | some (i, e) =>
    (some e.value, { c with dial := c.dial.modify i Entry.mark, tally := c.tally.hit })
  | none => (none, { c with tally := c.tally.miss })

/-- Drops a key from the cache and says whether an entry left. -/
def forget (c : Cache) (key : String) : Bool × Cache :=
  match c.index[key]? with
  | none => (false, c)
  | some i =>
    let unlisted := { c with index := c.index.erase key }
    match c.dial.vacate i with
    | none => (false, unlisted)
    | some (stale, dial) =>
      (true, { unlisted with
        dial
        used := c.used - stale.size
        tally := c.tally.eviction })

/-! ## Making room -/

/-- Lets the hand take one entry out.  Gives none if there is none to take. -/
def expel (c : Cache) : Option (Eviction × Cache) :=
  c.dial.expel.map fun (victim, dial) =>
    let used := c.used - victim.size
    (⟨victim.key, victim.size, used⟩, { c with
      index := c.index.erase victim.key
      dial
      used
      tally := c.tally.eviction })

/-- Lets the hand take entries out, `rounds` at most, until the cache `fits` or
    nothing is left to take. -/
def expelUntil (fits : Cache → Bool) : Nat → Cache → List Eviction × Cache
  | 0, c => ([], c)
  | rounds + 1, c =>
    if fits c then ([], c)
    else
      match c.expel with
      | none => ([], c)
      | some (eviction, rest) =>
        let (more, last) := expelUntil fits rounds rest
        (eviction :: more, last)

/-- Takes entries out until the cache `fits`.  There are never more entries than
    slots, so as many rounds as slots are enough. -/
def makeRoom (c : Cache) (fits : Cache → Bool) : List Eviction × Cache :=
  expelUntil fits c.dial.capacity c

def withinBytes (c : Cache) : Bool :=
  c.used ≤ c.byteLimit

def hasRoomFor (size : Nat) (c : Cache) : Bool :=
  c.size < c.capacity && c.used + size ≤ c.byteLimit

/-! ## Storing -/

/-- Refuses a blob: an older copy of its key must not outlive it. -/
def reject (c : Cache) (key : String) : Placement :=
  let dropped := (c.forget key).2
  ⟨.rejected, [], { dropped with tally := dropped.tally.rejection }⟩

/-- Puts a value in place of the one in slot `i`; an empty slot stays empty. -/
def replace (c : Cache) (i : Nat) (value : ByteArray) : Cache :=
  match c.dial.occupant? i with
  | none => c
  | some old => { c with
      dial := c.dial.modify i (·.renew value)
      used := c.used - old.size + value.size }

/-- Stores a value in place of the one in slot `i`, then frees bytes if the new
    value is larger than there was room for. -/
def overwrite (c : Cache) (i : Nat) (value : ByteArray) : Placement :=
  let (evicted, cache) := (c.replace i value).makeRoom withinBytes
  ⟨.stored, evicted, cache⟩

/-- Stores a new entry after making room for it, by count and by bytes. -/
def add (c : Cache) (key : String) (value : ByteArray) : Placement :=
  let (evicted, roomy) := c.makeRoom (hasRoomFor value.size)
  match roomy.dial.place (.fresh key value) with
  | none => ⟨.rejected, evicted, roomy⟩
  | some (i, dial) =>
    ⟨.stored, evicted, { roomy with
      index := roomy.index.insert key i
      dial
      used := roomy.used + value.size }⟩

/-- Offers a blob to the cache.  A blob larger than the whole cache is refused. -/
def set (c : Cache) (key : String) (value : ByteArray) : Placement :=
  if c.byteLimit < value.size then c.reject key
  else
    match c.index[key]? with
    | some i => c.overwrite i value
    | none => c.add key value

end Cache

end BlobDepot
