import BlobDepot.Proofs.Archive.Remains
import BlobDepot.Proofs.Depot.Alongside
import BlobDepot.Proofs.Depot.Failures
import BlobDepot.Proofs.KeyPrefixes

/-! # Depots after a failed write

A write that fails may leave directories above its target, and it may have used up a number.
The files and the cache are as they were (`Withstands`), so nothing that is read next shows that
there was such a write.  Later calls show it only by a write to the place of a directory that it
left, or by one that has room with the number that it would have had, and none with the next
number (`failed_put_withstood`).
-/

namespace BlobDepot.Depot

open Archive FileTree BlobKey

/-- Calls to which it makes no difference that directories and a number were used up. -/
structure Undisturbed (base : Location) (d d' : Depot) (calls : List Call) : Prop where
  /-- No call writes to the place of a directory that is new. -/
  apart : ∀ key data use full, .put key data use ∈ calls → d.qualify key = .ok full →
    d'.archive.tree.node? (base ++ names full) = d.archive.tree.node? (base ++ names full)
  /-- A write that has room when its turn comes has room as well with the number that it gets. -/
  room : ∀ front key data use back full, calls = front ++ .put key data use :: back →
    d.qualify key = .ok full → (d.run front).archive.Fits full → (d'.run front).archive.Fits full

variable {d d' : Depot} {base : Location} {key : String} {data : ByteArray} {use : CacheUse}
variable {f : Fault} {calls : List Call}

theorem Undisturbed.admitted (undisturbed : Undisturbed base d d' calls) :
    Admitted (Bears (fun q => d'.archive.tree.node? q ≠ d.archive.tree.node? q) base) d d' calls :=
  fun front key data use back full split qualified =>
    ⟨not_not.mpr (undisturbed.apart key data use full (by simp [split]) qualified),
      undisturbed.room front key data use back full split qualified⟩

end BlobDepot.Depot
