import BlobDepot.Log.Pattern.Flags
import BlobDepot.Text.Hex

/-! # Escapes in a pattern

What stands behind a backslash: a class, a place between two characters, or a
character that is given by its code point, by a letter or by itself.
-/

namespace BlobDepot.Log.Pattern

inductive Atom where
  | char (c : Char)
  /-- Any character of a class. -/
  | oneOf
  /-- A place between two characters. -/
  | place
  deriving DecidableEq, Repr

/-- Reads as many hexadecimal digits as asked for and puts them behind those of a
    number.  In a spaced pattern each of them may have blanks and comments in front. -/
def hexDigits? (f : Flags) : (width n : Nat) → List Char → Option (Nat × List Char)
  | 0, n, cs => some (n, cs)
  | width + 1, n, cs =>
    match skip f cs with
    | [] => none
    | c :: rest => (Text.hexValue? c).bind fun digit => hexDigits? f width (16 * n + digit) rest

/-- Reads the character whose code point is given in so many hexadecimal digits. -/
def codePoint? (f : Flags) (width : Nat) (cs : List Char) : Option (Char × List Char) := do
  let (n, rest) ← hexDigits? f width 0 cs
  if n.isValidChar then some (Char.ofNat n, rest) else none

/-- The control that a letter behind a backslash stands for. -/
def control? : Char → Option Char
  | 'a' => some '\x07'
  | 't' => some '\t'
  | 'n' => some '\n'
  | 'v' => some '\x0b'
  | 'f' => some '\x0c'
  | 'r' => some '\r'
  | _ => none

/-- Reads what stands behind a backslash. -/
def escape? (f : Flags) : List Char → Option (Atom × List Char)
  | [] => none
  | c :: rest =>
    if c = 'x' then do
      let (c, rest) ← codePoint? f 2 rest
      if f.unicode || c.toNat < 0x80 then some (.char c, rest) else none
    else if c = 'u' then (codePoint? f 4 rest).map fun (c, rest) => (.char c, rest)
    else if c = 'U' then (codePoint? f 8 rest).map fun (c, rest) => (.char c, rest)
    else if "dsw".toList.contains c then if f.unicode then none else some (.oneOf, rest)
    else if "bB<>".toList.contains c then if f.unicode then none else some (.place, rest)
    else if "Az".toList.contains c then some (.place, rest)
    else
      match control? c with
      | some control => some (.char control, rest)
      | none => if c.isAlphanum || 0x80 ≤ c.toNat then none else some (.char c, rest)

end BlobDepot.Log.Pattern
