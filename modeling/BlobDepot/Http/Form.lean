import BlobDepot.Text.Percent

/-! # Form data

The form encoding of queries: named values between ampersands, the name before
the first equals sign, blanks as plus signs, and the rest percent-encoded.
-/

namespace BlobDepot.Http.Form

def octets (s : String) : List UInt8 :=
  s.toUTF8.data.toList

/-- The name and the value of one part; without an equals sign the value is
    empty. -/
def readPair (part : List UInt8) : List UInt8 × List UInt8 :=
  let name := part.takeWhile (· != 0x3D)
  let value := (part.dropWhile (· != 0x3D)).drop 1
  (Text.Percent.decodeForm name, Text.Percent.decodeForm value)

/-- The named values of a query.  Empty parts are left out. -/
def pairs (query : String) : List (List UInt8 × List UInt8) :=
  (((octets query).splitOn 0x26).filter (· ≠ [])).map readPair

end BlobDepot.Http.Form
