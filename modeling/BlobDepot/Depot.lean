import BlobDepot.Archive
import BlobDepot.BlobKey
import BlobDepot.Cache.Basic
import BlobDepot.CacheUse
import BlobDepot.Settings

/-! # The depot

An archive of blobs with a cache in front of it.  Keys are checked, a prefix is put
in front of them, and the whole is checked again; archive and cache only ever see
such full keys.

Reading asks the cache first and fills it from the archive.  Writing goes to the
archive first; only when that succeeded is the blob cached, or an older cached copy
forgotten if the request goes around the cache.  A call that fails to write
therefore leaves the cache as it was.
-/

namespace BlobDepot

/-- A depot: the archive, the cache, and what is put in front of every key. -/
structure Depot where
  archive : Archive
  cache : Cache
  keyPrefix : String

namespace Depot

inductive Source where
  | cache
  | archive
  deriving DecidableEq, Repr

structure Delivery where
  data : ByteArray
  source : Source
  deriving DecidableEq

/-- What a call led to: its result, the entries that the cache's hand took out
    meanwhile, and the depot after it. -/
structure Outcome (α : Type) where
  result : Except Fault α
  evicted : List Cache.Eviction
  depot : Depot

/-! ## Opening -/

/-- The part of the program that the depot's log lines name. -/
def logTarget : String := "blob_cache::storage"

/-- The prefix without the slashes at its end, which is what has to be a key. -/
def trimmedPrefix (keyPrefix : String) : String :=
  String.ofList (keyPrefix.toList.reverse.dropWhile (· == '/')).reverse

/-- Refuses a prefix that is no key, slashes at its end aside. -/
def checkPrefix (keyPrefix : String) : Except Fault Unit :=
  let trimmed := trimmedPrefix keyPrefix
  if trimmed.isEmpty then .ok ()
  else
    match BlobKey.check trimmed with
    | .ok () => .ok ()
    | .error f => .error ⟨.badSetup, "STORAGE_PREFIX is not usable: " ++ f.message⟩

/-- Opens the depot that the settings describe.  The tree is touched only once
    the limits of the cache and the prefix are accepted. -/
def openWith (settings : Settings) (t : FileTree) : Opening Depot :=
  match Cache.create settings.entryLimit settings.byteLimit with
  | .error f => ⟨[], .error (f, t)⟩
  | .ok cache =>
    match checkPrefix settings.keyPrefix with
    | .error f => ⟨[], .error (f, t)⟩
    | .ok () =>
      match Archive.openAt (.ofString settings.directory) t with
      | ⟨log, .error failure⟩ => ⟨log, .error failure⟩
      | ⟨log, .ok archive⟩ =>
        let ready : Log.Event := ⟨.info, logTarget, "Blob storage ready", [
          ("capacity", toString settings.entryLimit),
          ("mem_limit", toString settings.byteLimit),
          ("prefix", settings.keyPrefix)]⟩
        ⟨log ++ [ready], .ok ⟨archive, cache, settings.keyPrefix⟩⟩

/-- Opens a depot without a look at its prefix: first the archive, then the
    cache. -/
def assemble (settings : Settings) (t : FileTree) : Opening Depot :=
  match Archive.openAt (.ofString settings.directory) t with
  | ⟨log, .error failure⟩ => ⟨log, .error failure⟩
  | ⟨log, .ok archive⟩ =>
    match Cache.create settings.entryLimit settings.byteLimit with
    | .error f => ⟨log, .error (f, archive.tree)⟩
    | .ok cache => ⟨log, .ok ⟨archive, cache, settings.keyPrefix⟩⟩

/-! ## Reading and writing -/

/-- The key by which archive and cache know a blob. -/
def qualify (d : Depot) (key : String) : Except Fault String :=
  match BlobKey.check key with
  | .error f => .error f
  | .ok () =>
    match BlobKey.check (d.keyPrefix ++ key) with
    | .error f => .error f
    | .ok () => .ok (d.keyPrefix ++ key)

def remember (d : Depot) (full : String) (data : ByteArray) : List Cache.Eviction × Depot :=
  let placement := d.cache.set full data
  (placement.evicted, { d with cache := placement.cache })

/-- Reads a blob from the archive and, through the cache, remembers it. -/
def fetch (d : Depot) (full : String) (use : CacheUse) : Outcome (Option Delivery) :=
  match d.archive.read full with
  | .error f => ⟨.error f, [], d⟩
  | .ok none => ⟨.ok none, [], d⟩
  | .ok (some data) =>
    match use with
    | .around => ⟨.ok (some ⟨data, .archive⟩), [], d⟩
    | .through =>
      let (evicted, filled) := d.remember full data
      ⟨.ok (some ⟨data, .archive⟩), evicted, filled⟩

def get (d : Depot) (key : String) (use : CacheUse) : Outcome (Option Delivery) :=
  match d.qualify key with
  | .error f => ⟨.error f, [], d⟩
  | .ok full =>
    match use with
    | .around => d.fetch full .around
    | .through =>
      match d.cache.get full with
      | (some data, cache) => ⟨.ok (some ⟨data, .cache⟩), [], { d with cache }⟩
      | (none, cache) => { d with cache }.fetch full .through

/-- Stores a blob and tells its size.  A request around the cache makes the cache
    forget the key, so that no later one reads the replaced bytes. -/
def put (d : Depot) (key : String) (data : ByteArray) (use : CacheUse) : Outcome Nat :=
  match d.qualify key with
  | .error f => ⟨.error f, [], d⟩
  | .ok full =>
    match d.archive.write full data with
    | (.error f, archive) => ⟨.error f, [], { d with archive }⟩
    | (.ok (), archive) =>
      match use with
      | .around => ⟨.ok data.size, [], { d with archive, cache := (d.cache.forget full).2 }⟩
      | .through =>
        let (evicted, filled) := { d with archive }.remember full data
        ⟨.ok data.size, evicted, filled⟩

/-! ## Runs -/

inductive Call where
  | get (key : String) (use : CacheUse)
  | put (key : String) (data : ByteArray) (use : CacheUse)
  deriving DecidableEq

inductive Answer where
  | fetched (result : Except Fault (Option Delivery))
  | stored (result : Except Fault Nat)

def step (d : Depot) : Call → Answer × Depot
  | .get key use =>
    let outcome := d.get key use
    (.fetched outcome.result, outcome.depot)
  | .put key data use =>
    let outcome := d.put key data use
    (.stored outcome.result, outcome.depot)

def run (d : Depot) (calls : List Call) : Depot :=
  calls.foldl (fun d call => (d.step call).2) d

@[simp] theorem run_nil (d : Depot) : d.run [] = d := rfl

@[simp] theorem run_cons (d : Depot) (call : Call) (calls : List Call) :
    d.run (call :: calls) = (d.step call).2.run calls := rfl

end Depot

end BlobDepot
