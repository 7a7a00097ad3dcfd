import BlobDepot.Log.Pattern.Brackets
import BlobDepot.Text.Letter

/-! # Value patterns

What the value of a field can be compared with: a number, or a regular expression.
No value is ever compared here, because only spans have values to compare and no
event of this program lies in one.  What counts is whether a text is a pattern at
all, since a filter with a part that is none is not used.

A pattern is read part by part.  `Reading` is what has to be known between two
parts, `step?` reads one, and `isWellFormed` says that a text is used up with no
group left open and that nothing in it is nested too deep.

Patterns speak of code points, but the tables of Unicode's classes and letter cases
are no part of them.  So a class such as `\d`, a word boundary, or letters of either
case are refused, unless the flag `u` is switched off; then they speak of ASCII, and
what could match half a code point is refused instead.
-/

namespace BlobDepot.Log.Pattern

structure Reading where
  flags : Flags := {}
  /-- The depths inside the innermost group. -/
  branches : Branches := {}
  /-- The flags and the depths outside each group that is open, the innermost first. -/
  outer : List (Flags × Branches) := []
  names : List (List Char) := []
  /-- The last part can be repeated. -/
  repeatable : Bool := false
  deriving DecidableEq, Repr

namespace Reading

/-- The reading after a part that can be repeated. -/
def afterPart (r : Reading) (depth : Nat) : Reading :=
  { r with branches := r.branches.add depth, repeatable := true }

/-- The reading after flags were switched up to the end of the group. -/
def switched (r : Reading) (flags : Flags) : Reading :=
  { r with flags, branches := r.branches.add 0, repeatable := false }

def nextBranch (r : Reading) : Reading :=
  { r with branches := r.branches.next, repeatable := false }

/-- The reading after the last part was found to be repeated. -/
def repeated? (r : Reading) : Option Reading :=
  if r.repeatable then some { r with branches := r.branches.repeated } else none

def opened (r : Reading) (flags : Flags) : Reading :=
  { r with
    flags, branches := {}, outer := (r.flags, r.branches) :: r.outer, repeatable := false }

/-- The characters form the name of a group. -/
def isName : List Char → Bool
  | [] => false
  | c :: cs =>
    (c == '_' || Text.isLetter c) && cs.all fun c => "_.[]".toList.contains c || Text.isAlphanumeric c

/-- Reads the name of a group and opens the group. -/
def openNamed? (r : Reading) (cs : List Char) : Option (Reading × List Char) :=
  let name := cs.takeWhile (· != '>')
  match cs.dropWhile (· != '>') with
  | _ :: rest =>
    if isName name && !r.names.contains name then
      some ({ r.opened r.flags with names := name :: r.names }, rest)
    else none
  | [] => none

/-- Reads what stands behind an opening parenthesis.  Looking ahead or behind is not
    possible. -/
def openGroup? (r : Reading) (cs : List Char) : Option (Reading × List Char) :=
  match skip r.flags cs with
  | '?' :: '<' :: '=' :: _ | '?' :: '<' :: '!' :: _ => none
  | '?' :: 'P' :: '<' :: rest | '?' :: '<' :: rest => r.openNamed? rest
  | '?' :: rest => do
    let (flags, group, rest) ← r.flags.read? [] true false rest
    if group then some (r.opened flags, rest)
    else some (r.switched flags, rest)
  | rest => some (r.opened r.flags, rest)

def closeGroup? (r : Reading) : Option Reading :=
  match r.outer with
  | [] => none
  | (flags, branches) :: outer =>
    some (afterPart { r with flags, branches, outer } (r.branches.depth + 1))

/-- An atom can stand in the pattern. -/
def admits (r : Reading) : Atom → Bool
  | .char _ => !r.flags.needsCases
  | _ => true

/-- Reads the next part of a pattern. -/
def step? (r : Reading) : List Char → Option (Reading × List Char)
  | [] => none
  | '(' :: rest => r.openGroup? rest
  | ')' :: rest => r.closeGroup?.map (·, rest)
  | '|' :: rest => some (r.nextBranch, rest)
  | '[' :: rest => (class? r.flags rest).map fun (depth, rest) => (r.afterPart depth, rest)
  | '\x7b' :: _ => none
  | '\\' :: rest => do
    let (atom, rest) ← escape? r.flags rest
    if r.admits atom then some (r.afterPart 0, rest) else none
  | c :: rest =>
    if c = '*' ∨ c = '+' ∨ c = '?' then
      r.repeated?.map (·, if rest.head? = some '?' then rest.tail else rest)
    else if c = '.' then if r.flags.unicode then some (r.afterPart 0, rest) else none
    else if c = '^' ∨ c = '$' ∨ r.admits (.char c) then some (r.afterPart 0, rest)
    else none

/-- Reads a pattern to its end.  There are no more parts than `fuel`. -/
def finishes (r : Reading) : (fuel : Nat) → List Char → Bool
  | 0, _ => false
  | fuel + 1, cs =>
    match skip r.flags cs with
    | [] => r.outer.isEmpty && r.branches.depth ≤ nestingLimit
    | cs =>
      match r.step? cs with
      | none => false
      | some (r, rest) => r.finishes fuel rest

end Reading

/-- A text is a regular expression. -/
def isWellFormed (cs : List Char) : Bool :=
  Reading.finishes {} (cs.length + 1) cs

/-! ## Values -/

/-- A text is a decimal number with an optional fraction and exponent, or one of the
    words for what no digits can write. -/
def isNumber (cs : List Char) : Bool :=
  let unsigned := fun (cs : List Char) => match cs with
    | '+' :: rest | '-' :: rest => rest
    | _ => cs
  let cs := unsigned cs
  let whole := cs.takeWhile Char.isDigit
  let behind := cs.dropWhile Char.isDigit
  let point := behind.head? == some '.'
  let fraction := if point then behind.tail.takeWhile Char.isDigit else []
  let behind := if point then behind.tail.dropWhile Char.isDigit else behind
  ["inf", "infinity", "nan"].contains (String.ofList cs).toLower ||
    !(whole ++ fraction).isEmpty &&
      match behind with
      | [] => true
      | e :: exponent =>
        let digits := unsigned exponent
        (e == 'e' || e == 'E') && !digits.isEmpty && digits.all Char.isDigit

/-- A text can be compared with a value. -/
def isValue (cs : List Char) : Bool :=
  isNumber cs || isWellFormed cs

end BlobDepot.Log.Pattern
