/-! # Going through the cache or around it

Each request for a blob says whether the cache takes part in it.
-/

namespace BlobDepot

/-- Whether the cache takes part in a request. -/
inductive CacheUse where
  /-- The cache is asked, and filled with what the request moves. -/
  | through
  /-- The cache is neither asked nor filled. -/
  | around
  deriving DecidableEq, Repr

end BlobDepot
