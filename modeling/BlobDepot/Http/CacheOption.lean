import BlobDepot.CacheUse
import BlobDepot.Http.Form

/-! # The cache option of a blob request

The query of a blob request has one value that counts, `nocache`.  It is given at
most once and is `true` or `false`; all other names are read over.
-/

namespace BlobDepot.Http.CacheOption

inductive Defect where
  | notBoolean
  | duplicate
  deriving DecidableEq, Repr

def Defect.message : Defect → String
  | .notBoolean =>
    "Failed to deserialize query string: provided string was not `true` or `false`"
  | .duplicate => "Failed to deserialize query string: duplicate field `nocache`"

/-- The cache use that a value of `nocache` asks for. -/
def readValue (value : List UInt8) : Except Defect CacheUse :=
  if value = Form.octets "true" then .ok .around
  else if value = Form.octets "false" then .ok .through
  else .error .notBoolean

/-- Reads named values in their order; `seen` is what an earlier `nocache` asked
    for.  A second `nocache` is refused before its value is looked at. -/
def collect (seen : Option CacheUse) :
    List (List UInt8 × List UInt8) → Except Defect (Option CacheUse)
  | [] => .ok seen
  | (name, value) :: rest =>
    if name ≠ Form.octets "nocache" then collect seen rest
    else if seen.isSome then .error .duplicate
    else
      match readValue value with
      | .error d => .error d
      | .ok use => collect (some use) rest

/-- Reads the query of a blob request, which goes through the cache unless it says
    otherwise. -/
def parse (query : String) : Except Defect CacheUse :=
  match collect none (Form.pairs query) with
  | .error d => .error d
  | .ok asked => .ok (asked.getD .through)

end BlobDepot.Http.CacheOption
