/-! # Tokens and field values

Which texts may stand in a request as its method, as the name of a header field,
and as the value of one.
-/

namespace BlobDepot.Http

def isTokenChar (c : Char) : Bool :=
  c.isAlphanum || "!#$%&'*+-.^_`|~".toList.contains c

/-- A token: a method, or the name of a header field. -/
def isToken (s : String) : Bool :=
  !s.isEmpty && s.toList.all isTokenChar

/-- The longest name of a header field, in bytes. -/
def maxFieldNameBytes : Nat := 65535

def isFieldName (s : String) : Bool :=
  isToken s && s.utf8ByteSize ≤ maxFieldNameBytes

/-- An octet that the value of a header field can hold: any but the controls,
    though with the tab. -/
def isFieldOctet (b : UInt8) : Bool :=
  b == 0x09 || (0x20 ≤ b && b != 0x7F)

def isFieldValue (bs : ByteArray) : Bool :=
  bs.data.all isFieldOctet

end BlobDepot.Http
