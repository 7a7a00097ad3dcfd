import Std.Data.ExtTreeMap
import BlobDepot.Bytes
import BlobDepot.FileTree.Errno
import BlobDepot.FileTree.Path

/-! # File trees

A tree of directories and files below one top directory, and the working directory
of the program in it.  An absolute path is read from the top, a relative one from
the working directory.  There are no links, no permissions and no limit on space,
so an operation fails only for what stands in the tree or for the form of the path,
and it fails as it does on Linux.

An operation that fails leaves the tree as it was.  The exception is
`FileTree.makeDirs`, which may have made some directories before it fails, and
therefore always returns a tree.
-/

namespace BlobDepot

/-- What stands at a place in a tree. -/
inductive Node where
  | file (data : ByteArray)
  | directory
  deriving DecidableEq

/-- A place in a tree: the names on the way to it from the top. -/
abbrev Location := List String

/-- A file tree, as the nodes at its places, with a working directory.  The working
    directory and those above it, up to the top, are always there and are not listed. -/
structure FileTree where
  nodes : Std.ExtTreeMap Location Node
  home : Location := []

namespace FileTree

/-- The tree in which nothing stands, and the top is the working directory. -/
def empty : FileTree := { nodes := ∅ }

/-- The longest name that a directory can hold, in bytes. -/
def maxNameBytes : Nat := 255

/-- The longest path that can be looked up, in bytes. -/
def maxPathBytes : Nat := 4095

def node? (t : FileTree) (place : Location) : Option Node :=
  if place <+: t.home then some .directory else t.nodes[place]?

def set (t : FileTree) (place : Location) (node : Node) : FileTree :=
  { t with nodes := t.nodes.insert place node }

def erase (t : FileTree) (place : Location) : FileTree :=
  { t with nodes := t.nodes.erase place }

@[simp] theorem home_set (t : FileTree) (place : Location) (node : Node) :
    (t.set place node).home = t.home := rfl

@[simp] theorem home_erase (t : FileTree) (place : Location) : (t.erase place).home = t.home := rfl

theorem node?_of_start {t : FileTree} {place : Location} (start : place <+: t.home) :
    t.node? place = some .directory :=
  if_pos start

@[simp] theorem node?_nil (t : FileTree) : t.node? [] = some .directory :=
  node?_of_start List.nil_prefix

@[simp] theorem node?_home (t : FileTree) : t.node? t.home = some .directory :=
  node?_of_start List.prefix_rfl

/-- Where no directory stands is neither the working directory nor above it. -/
theorem not_start_of_node? {t : FileTree} {place : Location}
    (vacant : t.node? place ≠ some .directory) : ¬ place <+: t.home :=
  fun start => vacant (node?_of_start start)

theorem node?_set {t : FileTree} {place : Location} (apart : ¬ place <+: t.home) (node : Node)
    (q : Location) :
    (t.set place node).node? q = if q = place then some node else t.node? q := by
  rw [node?, node?, home_set]
  by_cases start : q <+: t.home
  · rw [if_pos start, if_pos start, if_neg]
    rintro rfl
    exact apart start
  · rw [if_neg start, if_neg start]
    simp only [set, Std.ExtTreeMap.getElem?_insert, Std.LawfulEqCmp.compare_eq_iff_eq]
    by_cases same : place = q
    · simp [same]
    · simp [same, Ne.symm same]

theorem node?_erase {t : FileTree} {place : Location} (apart : ¬ place <+: t.home) (q : Location) :
    (t.erase place).node? q = if q = place then none else t.node? q := by
  rw [node?, node?, home_erase]
  by_cases start : q <+: t.home
  · rw [if_pos start, if_pos start, if_neg]
    rintro rfl
    exact apart start
  · rw [if_neg start, if_neg start]
    simp only [erase, Std.ExtTreeMap.getElem?_erase, Std.LawfulEqCmp.compare_eq_iff_eq]
    by_cases same : place = q
    · simp [same]
    · simp [same, Ne.symm same]

/-! ## Looking paths up -/

/-- A place at which something stands, and what it is. -/
structure Found where
  place : Location
  node : Node

def find (t : FileTree) (place : Location) : Except Errno Found :=
  match t.node? place with
  | some node => .ok ⟨place, node⟩
  | none => .error .noSuchEntry

/-- Follows one name from a place, where a directory has to stand. -/
def follow (t : FileTree) (here : Found) (name : String) : Except Errno Found :=
  match here.node with
  | .directory =>
    if name = "." then .ok here
    -- The top directory is above itself.
    else if name = ".." then t.find here.place.dropLast
    else if maxNameBytes < name.utf8ByteSize then .error .nameTooLong
    else t.find (here.place ++ [name])
  | .file _ => .error .notDirectory

def walkFrom (t : FileTree) (here : Found) (names : List String) : Except Errno Found :=
  names.foldlM t.follow here

/-- Where absolute paths are read from, and where relative ones are. -/
def origin (t : FileTree) (absolute : Bool) : Location :=
  if absolute then [] else t.home

/-- Follows names, as those of an absolute path or of a relative one. -/
def walk (t : FileTree) (absolute : Bool) (names : List String) : Except Errno Found :=
  t.walkFrom ⟨t.origin absolute, .directory⟩ names

/-- The names of a path that can be looked up.  The empty path cannot. -/
def namesOf (p : Path) : Except Errno (List String) :=
  if p.hasNul then .error .nulInPath
  else if maxPathBytes < p.byteSize then .error .nameTooLong
  else if p.pieces = [] ∧ p.absolute = false then .error .noSuchEntry
  else .ok (p.pieces.filter (· != ""))

/-- What a path leads to.  A slash at the end asks for a directory. -/
def stat (t : FileTree) (p : Path) : Except Errno Node := do
  match (← t.walk p.absolute (← namesOf p)).node with
  | .file data => if p.pieces.getLast? = some "" then .error .notDirectory else .ok (.file data)
  | .directory => .ok .directory

def isDirectory (t : FileTree) (p : Path) : Bool :=
  match t.stat p with
  | .ok .directory => true
  | _ => false

/-- Where the last name of a path belongs: in an existing directory, or nowhere if
    it is `.` or `..`. -/
structure Site where
  directory : Location
  name? : Option String
  /-- The path ends in a slash. -/
  slash : Bool

/-- Finds the directory in which the last name of a path belongs. -/
def locate (t : FileTree) (p : Path) : Except Errno Site := do
  let names ← namesOf p
  let here ← t.walk p.absolute names.dropLast
  match here.node with
  | .directory =>
    let last := names.getLast?.filter fun name => name != "." && name != ".."
    if last.any (maxNameBytes < ·.utf8ByteSize) then .error .nameTooLong
    else .ok ⟨here.place, last, p.pieces.getLast? = some ""⟩
  | .file _ => .error .notDirectory

/-! ## Operations -/

def readFile (t : FileTree) (p : Path) : Except Errno ByteArray := do
  match ← t.stat p with
  | .file data => .ok data
  | .directory => .error .isDirectory

/-- Makes a directory in an existing one. -/
def makeDir (t : FileTree) (p : Path) : Except Errno FileTree := do
  match ← t.locate p with
  | ⟨_, none, _⟩ => .error .alreadyExists
  | ⟨directory, some name, _⟩ =>
    let place := directory ++ [name]
    if (t.node? place).isSome then .error .alreadyExists
    else .ok (t.set place .directory)

/-- Makes the first of the given directories, each of which lies in the one after
    it, making those that are missing on the way.  A directory that is there
    already is as good as a new one. -/
def makeChain (t : FileTree) : List Path → Option Errno × FileTree
  | [] => (none, t)
  | p :: above =>
    match t.makeDir p with
    | .ok made => (none, made)
    | .error .noSuchEntry =>
      match t.makeChain above with
      | (some e, partly) => (some e, partly)
      | (none, ready) =>
        match ready.makeDir p with
        | .ok made => (none, made)
        | .error e => (if ready.isDirectory p then none else some e, ready)
    | .error e => (if t.isDirectory p then none else some e, t)

/-- Makes a directory and those above it as far as they are missing.  Tells why if
    it cannot, and what the tree has become. -/
def makeDirs (t : FileTree) (p : Path) : Option Errno × FileTree :=
  t.makeChain p.ancestors

/-- Writes a file in an existing directory, over an older one. -/
def writeFile (t : FileTree) (p : Path) (data : ByteArray) : Except Errno FileTree := do
  match ← t.locate p with
  | ⟨_, none, _⟩ | ⟨_, some _, true⟩ => .error .isDirectory
  | ⟨directory, some name, false⟩ =>
    let place := directory ++ [name]
    match t.node? place with
    | some .directory => .error .isDirectory
    | _ => .ok (t.set place (.file data))

def removeFile (t : FileTree) (p : Path) : Except Errno FileTree := do
  match ← t.locate p with
  | ⟨_, none, _⟩ => .error .isDirectory
  | ⟨directory, some name, slash⟩ =>
    let place := directory ++ [name]
    match t.node? place with
    | none => .error .noSuchEntry
    | some .directory => .error .isDirectory
    | some (.file _) => if slash then .error .notDirectory else .ok (t.erase place)

/-- Removes a file if there is one that can be removed. -/
def discard (t : FileTree) (p : Path) : FileTree :=
  match t.removeFile p with
  | .ok without => without
  | .error _ => t

/-- Gives a file another path, in place of a file that may be there. -/
def renameFile (t : FileTree) (source target : Path) : Except Errno FileTree := do
  let data ← t.readFile source
  let old ← t.locate source
  let new ← t.locate target
  match old.name?, new.name? with
  | some oldName, some newName =>
    if new.slash then .error .notDirectory
    else
      let place := new.directory ++ [newName]
      match t.node? place with
      | some .directory => .error .isDirectory
      | _ => .ok ((t.erase (old.directory ++ [oldName])).set place (.file data))
  | _, _ => .error .busy

end FileTree

end BlobDepot
