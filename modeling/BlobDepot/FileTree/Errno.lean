/-! # Refusals of a file tree

The causes for which an operation on a file tree fails, with the words and the
number by which Linux reports each.
-/

namespace BlobDepot

inductive Errno where
  | noSuchEntry
  | busy
  | alreadyExists
  | notDirectory
  | isDirectory
  /-- The last name of the path is one that the operation cannot be about. -/
  | invalidArgument
  | nameTooLong
  /-- A path cannot hold the character NUL, so no operation is even tried. -/
  | nulInPath
  deriving DecidableEq, Repr

def Errno.message : Errno → String
  | .noSuchEntry => "No such file or directory (os error 2)"
  | .busy => "Device or resource busy (os error 16)"
  | .alreadyExists => "File exists (os error 17)"
  | .notDirectory => "Not a directory (os error 20)"
  | .isDirectory => "Is a directory (os error 21)"
  | .invalidArgument => "Invalid argument (os error 22)"
  | .nameTooLong => "File name too long (os error 36)"
  | .nulInPath => "file name contained an unexpected NUL byte"

end BlobDepot
