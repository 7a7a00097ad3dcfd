import BlobDepot.Log.Pattern.Escape
import BlobDepot.Log.Pattern.Nesting

/-! # Classes in brackets

A class lists characters, ranges of them and further classes, and joins them by
operators.  `class?` reads one and tells how deep it is nested.  Where both cases of
a letter would be needed a class may have no members, so that only operators remain.
-/

namespace BlobDepot.Log.Pattern

/-- The classes that have a name of their own inside brackets. -/
def classNames : List String :=
  ["alnum", "alpha", "ascii", "blank", "cntrl", "digit", "graph", "lower", "print", "punct",
   "space", "upper", "word", "xdigit"]

/-- Reads a named class behind its opening bracket, and whether it is negated. -/
def namedClass? : List Char → Option (Bool × List Char)
  | ':' :: cs =>
    let negated := cs.head? == some '^'
    let cs := if negated then cs.tail else cs
    match cs.dropWhile (· != ':') with
    | ':' :: ']' :: rest =>
      if classNames.contains (String.ofList (cs.takeWhile (· != ':'))) then some (negated, rest)
      else none
    | _ => none
  | _ => none

/-- The atom can be a member of a class. -/
def Atom.isMember (f : Flags) : Atom → Bool
  | .char c => !f.needsCases && (f.unicode || c.toNat < 0x80)
  | .oneOf => true
  | .place => false

def member? (f : Flags) (cs : List Char) : Option (Atom × List Char) := do
  let (atom, rest) ←
    match cs with
    | [] => none
    | '\\' :: rest => escape? f rest
    | c :: rest => some (.char c, rest)
  if atom.isMember f then some (atom, rest) else none

/-- The character behind a minus sign that decides whether the sign makes a range.  In
    a spaced pattern it is the first that is no blank, and one number sign is passed
    over too; what follows in the comment counts all the same. -/
def behindMinus? (f : Flags) (cs : List Char) : Option Char :=
  if f.spaced then
    match cs.dropWhile Text.isBlank with
    | '#' :: rest => (rest.dropWhile Text.isBlank).head?
    | rest => rest.head?
  else cs.head?

/-- Reads a member of a class, or a range of them from the lower to the higher.  A
    minus sign that another one or the closing bracket follows makes no range. -/
def members? (f : Flags) (cs : List Char) : Option (List Char) := do
  let (low, rest) ← member? f cs
  match skip f rest with
  | '-' :: behind =>
    let next := behindMinus? f behind
    if next == some ']' || next == some '-' then some ('-' :: behind)
    else
      match low, ← member? f (skip f behind) with
      | .char a, (.char b, rest) => if a ≤ b then some rest else none
      | _, _ => none
  | rest => some rest

/-- Reads the negation of a class behind its opening bracket.  It is only possible
    where characters are code points. -/
def negation? (f : Flags) (cs : List Char) : Option (List Char) :=
  match skip f cs with
  | '^' :: rest => if f.unicode then some rest else none
  | rest => some rest

/-- What has been read of the class that is innermost. -/
structure ClassReading where
  members : Members := {}
  /-- Only minus signs were read, which stand for themselves here. -/
  atStart : Bool := true
  deriving DecidableEq, Repr

namespace ClassReading

def add (r : ClassReading) (depth : Nat) : ClassReading :=
  ⟨r.members.add depth, false⟩

def next (r : ClassReading) : ClassReading :=
  ⟨r.members.next, false⟩

/-- Reads a sign that stands for itself because the class begins with it: a minus sign,
    or the closing bracket if nothing was read. -/
def first? (r : ClassReading) : List Char → Option (ClassReading × List Char)
  | '-' :: rest => if r.atStart then some ({ r.add 0 with atStart := true }, rest) else none
  | ']' :: rest => if r.atStart && r.members.items.isEmpty then some (r.add 0, rest) else none
  | _ => none

/-- Reads a class up to the bracket that closes it, and gives its depth.  `outer` are
    the classes around the innermost one.  There are no more parts than `fuel`. -/
def finish? (f : Flags) : (fuel : Nat) → ClassReading → List ClassReading → List Char →
    Option (Nat × List Char)
  | 0, _, _, _ => none
  | fuel + 1, r, outer, cs =>
    let cs := skip f cs
    match r.first? cs with
    | some (r, rest) => if f.needsCases then none else finish? f fuel r outer rest
    | none =>
      match cs with
      | [] => none
      | ']' :: rest =>
        let depth := r.members.depth + 1
        match outer with
        | [] => some (depth, rest)
        | r :: outer => finish? f fuel (r.add depth) outer rest
      | '[' :: rest =>
        match namedClass? rest with
        | some (negated, rest) =>
          if f.needsCases || negated && !f.unicode then none
          else finish? f fuel (r.add 0) outer rest
        | none => (negation? f rest).bind (finish? f fuel {} (r :: outer))
      | '&' :: '&' :: rest | '-' :: '-' :: rest | '~' :: '~' :: rest =>
        finish? f fuel r.next outer rest
      | cs => (members? f cs).bind (finish? f fuel (r.add 0) outer)

end ClassReading

/-- Reads a class behind its opening bracket and gives its depth. -/
def class? (f : Flags) (cs : List Char) : Option (Nat × List Char) :=
  (negation? f cs).bind fun rest => ClassReading.finish? f (rest.length + 1) {} [] rest

end BlobDepot.Log.Pattern
