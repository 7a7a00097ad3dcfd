/-! # Bytes

Bytes are compared one by one.  The instance is named here so that every module compares
them by the same one.
-/

namespace BlobDepot

instance (priority := high) decidableEqBytes : DecidableEq ByteArray :=
  ByteArray.instDecidableEq

end BlobDepot
