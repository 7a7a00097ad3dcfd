/-! # Paths

A path is kept as the pieces between its slashes, so that a repeated slash or
one at the end is an empty piece.  Pieces that are empty or `.` name nothing;
the others are the path's names, `..` among them.  The slash that an absolute path
starts with lies before its pieces.

* `Path.join` puts a path behind another.
* `Path.parent`, `Path.fileName?` and `Path.withFileName` take a path apart at
  its last name.
* `Path.ancestors` lists the directories on the way, the longest first.
-/

namespace BlobDepot

/-- A path: whether it starts with a slash, and the pieces behind that, between its other
    slashes. -/
structure Path where
  absolute : Bool
  pieces : List String
  deriving DecidableEq, Repr

namespace Path

/-- The pieces between slashes.  Where no letter is, there is no piece either. -/
def split (letters : List Char) : List String :=
  if letters = [] then [] else (letters.splitOn '/').map String.ofList

/-- The path that a text writes.  The empty text is the relative path without pieces, and
    a slash alone is the absolute one. -/
def ofString (s : String) : Path :=
  match s.toList with
  | '/' :: rest => ⟨true, split rest⟩
  | letters => ⟨false, split letters⟩

def text (p : Path) : String :=
  (if p.absolute then "/" else "") ++ "/".intercalate p.pieces

instance : ToString Path := ⟨text⟩

def isName (piece : String) : Bool :=
  piece != "" && piece != "."

/-- The path holds a character that no path may hold. -/
def hasNul (p : Path) : Bool :=
  p.pieces.any fun piece => piece.toList.contains '\x00'

def byteSize (p : Path) : Nat :=
  (if p.absolute then 1 else 0) +
    ((p.pieces.map String.utf8ByteSize).foldr (· + ·) 0 + (p.pieces.length - 1))

/-- The second path, read from the end of the first.  An absolute path stays as
    it is. -/
def join (p q : Path) : Path :=
  if q.absolute then q
  else if p.pieces = [] then ⟨p.absolute, q.pieces⟩
  else
    let base := if p.pieces.getLast? = some "" then p.pieces.dropLast else p.pieces
    ⟨p.absolute, base ++ (if q.pieces = [] then [""] else q.pieces)⟩

/-- The pieces up to the last name. -/
def trimmed (p : Path) : List String :=
  (p.pieces.reverse.dropWhile (!isName ·)).reverse

/-- The path without its last name; a path without names has none to lose. -/
def parent (p : Path) : Path :=
  ⟨p.absolute, (p.trimmed.dropLast.reverse.dropWhile (!isName ·)).reverse⟩

/-- The last name, if it is a name of its own and not `..`. -/
def fileName? (p : Path) : Option String :=
  p.trimmed.getLast?.filter (· != "..")

def withFileName (p : Path) (name : String) : Path :=
  (if p.fileName?.isSome then p.parent else p).join ⟨false, [name]⟩

/-- The path itself as it is written, and the directories above it, up to but not
    including the path without pieces: the top or the working directory, which are there. -/
def ancestors (p : Path) : List Path :=
  if p.pieces = [] then []
  else
    let above := p.parent.pieces
    let starts := (List.range' 1 above.length).map (above.take ·)
    p :: (starts.filter fun start => start.getLast?.any isName).reverse.map (Path.mk p.absolute)

end Path

end BlobDepot
