import BlobDepot.Fault
import BlobDepot.FileTree.Basic
import BlobDepot.Log.Event

/-! # The archive

The place where blobs are kept: one file per blob under a root directory.  A blob
is first written to a file of its own beside its place and then renamed, so that a
reader sees the old bytes or the new ones and nothing between.  The names of such
files carry a number that each upload uses up.
-/

namespace BlobDepot

/-- An archive: the tree it lives in, its root directory, and the number of the next
    upload. -/
structure Archive where
  tree : FileTree
  root : Path
  nextUpload : Nat := 0

/-- What opening something leads to.  Opening logs what it does, and a failure may
    leave a changed tree behind. -/
structure Opening (α : Type) where
  log : List Log.Event
  result : Except (Fault × FileTree) α

def Errno.fault (e : Errno) : Fault :=
  ⟨.storage, e.message⟩

namespace Archive

/-- The part of the program that the log lines of an archive name. -/
def logTarget : String := "blob_cache::storage::fs"

/-- Opens an archive at a directory, which is made if it is missing. -/
def openAt (root : Path) (t : FileTree) : Opening Archive :=
  let opened : Log.Event := ⟨.info, logTarget, "Blob store opened", [("path", root.text)]⟩
  match t.stat root with
  | .ok .directory => ⟨[opened], .ok { tree := t, root }⟩
  | .ok (.file _) =>
    ⟨[], .error (⟨.badSetup, "storage path " ++ root.text ++ " is not a directory"⟩, t)⟩
  | .error .noSuchEntry =>
    let creating : Log.Event := ⟨.warn, logTarget,
      "Storage directory does not exist; creating it", [("path", root.text)]⟩
    match t.makeDirs root with
    | (none, made) => ⟨[creating, opened], .ok { tree := made, root }⟩
    | (some e, partly) => ⟨[creating], .error (e.fault, partly)⟩
  | .error e => ⟨[], .error (e.fault, t)⟩

def path (a : Archive) (key : String) : Path :=
  a.root.join (.ofString key)

/-- The path to which the upload with a given number writes before its blob
    appears at `p`. -/
def uploadPath (p : Path) (number : Nat) : Path :=
  p.withFileName ("." ++ p.fileName?.getD "" ++ "." ++ toString number ++ ".partial")

/-- The bytes stored under a key; none if there is no file, also when the key
    names a directory. -/
def read (a : Archive) (key : String) : Except Fault (Option ByteArray) :=
  match a.tree.readFile (a.path key) with
  | .ok data => .ok (some data)
  | .error .noSuchEntry => .ok none
  | .error e => if a.tree.isDirectory (a.path key) then .ok none else .error e.fault

/-- Writes `data` beside `p` under the given upload number and renames it to `p`.
    On failure the file beside it is removed again. -/
def upload (t : FileTree) (p : Path) (number : Nat) (data : ByteArray) : Option Errno × FileTree :=
  let beside := uploadPath p number
  match t.writeFile beside data with
  | .error e => (some e, t.discard beside)
  | .ok written =>
    match written.renameFile beside p with
    | .error e => (some e, written.discard beside)
    | .ok renamed => (none, renamed)

/-- Stores bytes under a key, in place of what was there.  The number of the
    upload is used up once the directories above the file exist. -/
def write (a : Archive) (key : String) (data : ByteArray) : Except Fault Unit × Archive :=
  match a.tree.makeDirs (a.path key).parent with
  | (some e, partly) => (.error e.fault, { a with tree := partly })
  | (none, ready) =>
    match upload ready (a.path key) a.nextUpload data with
    | (some e, tree) => (.error e.fault, { a with tree, nextUpload := a.nextUpload + 1 })
    | (none, tree) => (.ok (), { a with tree, nextUpload := a.nextUpload + 1 })

end Archive

end BlobDepot
