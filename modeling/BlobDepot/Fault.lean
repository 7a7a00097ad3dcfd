import BlobDepot.Text.Json

/-! # Faults

What a caller is told when the depot cannot do what it was asked.  A fault has a
kind, which decides the label of its message and the HTTP status, and a detail
in words.  Each part of the depot names its own causes by an inductive type and
turns them into a fault in one place.
-/

namespace BlobDepot

inductive Fault.Kind where
  /-- The depot was set up in a way that cannot work. -/
  | badSetup
  /-- No blob is stored under the key. -/
  | missing
  /-- The request makes no sense, for instance because of its key. -/
  | badRequest
  /-- The upload is larger than the depot accepts. -/
  | tooLarge
  /-- The file tree refused an operation. -/
  | storage
  deriving DecidableEq, Repr

structure Fault where
  kind : Fault.Kind
  detail : String
  deriving DecidableEq, Repr

namespace Fault

/-- The words in front of every fault of a kind. -/
def Kind.label : Kind → String
  | .badSetup => "Invalid configuration"
  | .missing => "Blob not found"
  | .badRequest => "Invalid request"
  | .tooLarge => "Payload too large"
  | .storage => "Storage error"

def Kind.status : Kind → Nat
  | .badSetup => 500
  | .missing => 404
  | .badRequest => 400
  | .tooLarge => 413
  | .storage => 500

def message (f : Fault) : String :=
  f.kind.label ++ ": " ++ f.detail

def status (f : Fault) : Nat :=
  f.kind.status

def errorJson (text : String) : String :=
  Text.Json.object [("error", .text text)]

end Fault

end BlobDepot
