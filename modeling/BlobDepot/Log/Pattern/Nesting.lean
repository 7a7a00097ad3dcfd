/-! # How deep a pattern is nested

A pattern is a tree: its parts stand in a row, rows are branches of a choice, and
groups and repetitions hold further rows.  Only its depth matters, which must not
go beyond `nestingLimit`.  `Branches` counts it for what lies between two
parentheses and `Members` for what lies between two brackets, while their parts are
read.
-/

namespace BlobDepot.Log.Pattern

/-- The greatest depth of a pattern. -/
def nestingLimit : Nat := 250

/-- The depth of parts that stand together.  A single part stands for itself; several
    lie one level below what holds them together. -/
def together : List Nat → Nat
  | [] => 0
  | [d] => d
  | d :: ds => ds.foldl max d + 1

/-! ## Rows of a group -/

/-- The depths of what has been read of a group. -/
structure Branches where
  /-- The parts of the branch that is being read, the last one first. -/
  parts : List Nat := []
  branches : List Nat := []
  deriving DecidableEq, Repr

namespace Branches

def add (b : Branches) (depth : Nat) : Branches :=
  { b with parts := depth :: b.parts }

/-- After the last part was found to be repeated. -/
def repeated (b : Branches) : Branches :=
  match b.parts with
  | [] => b
  | d :: ds => { b with parts := (d + 1) :: ds }

def next (b : Branches) : Branches :=
  ⟨[], together b.parts :: b.branches⟩

def depth (b : Branches) : Nat :=
  together (together b.parts :: b.branches)

end Branches

/-! ## Members of a class -/

/-- The depths of what has been read of a class. -/
structure Members where
  /-- The members behind the last operator, the last one first. -/
  items : List Nat := []
  /-- What stands in front of the last operator. -/
  operand : Option Nat := none
  deriving DecidableEq, Repr

namespace Members

def add (m : Members) (depth : Nat) : Members :=
  { m with items := depth :: m.items }

/-- The depth of all members.  An operator holds together what stands on its two
    sides. -/
def depth (m : Members) : Nat :=
  match m.operand with
  | none => together m.items
  | some left => max left (together m.items) + 1

def next (m : Members) : Members :=
  ⟨[], some m.depth⟩

end Members

end BlobDepot.Log.Pattern
