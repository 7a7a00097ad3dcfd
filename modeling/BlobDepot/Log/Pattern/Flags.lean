import BlobDepot.Text.Blank

/-! # The flags of a pattern

What can be switched inside a pattern, and what may stand between its parts.
-/

namespace BlobDepot.Log.Pattern

/-- The flags on which it depends what a pattern may hold. -/
structure Flags where
  /-- Letters stand for both of their cases. -/
  ignoreCase : Bool := false
  /-- Characters are code points and not octets. -/
  unicode : Bool := true
  /-- Blanks and comments may stand between the parts. -/
  spaced : Bool := false
  deriving DecidableEq, Repr

namespace Flags

/-- The flags after one of them was switched. -/
def switch (f : Flags) (on : Bool) : Char → Flags
  | 'i' => { f with ignoreCase := on }
  | 'u' => { f with unicode := on }
  | 'x' => { f with spaced := on }
  | _ => f

/-- Both cases of a code point would be needed. -/
def needsCases (f : Flags) : Bool :=
  f.ignoreCase && f.unicode

/-- Reads switches up to the colon or parenthesis behind them.  Tells whether it was
    a colon, so that a group begins. -/
def read? (f : Flags) (seen : List Char) (on afterMinus : Bool) :
    List Char → Option (Flags × Bool × List Char)
  | [] => none
  | ')' :: rest => if afterMinus || seen.isEmpty then none else some (f, false, rest)
  | ':' :: rest => if afterMinus then none else some (f, true, rest)
  | '-' :: rest => if on then read? f seen false true rest else none
  | c :: rest =>
    if "imsURux".toList.contains c && !seen.contains c then
      read? (f.switch on c) (c :: seen) on false rest
    else none

end Flags

/-! ## Between two parts -/

/-- What is left behind blanks and comments; a comment lasts from a number sign to
    the end of the line. -/
def skipComments (inComment : Bool) : List Char → List Char
  | [] => []
  | c :: cs =>
    if inComment then skipComments (c != '\n') cs
    else if c == '#' then skipComments true cs
    else if Text.isBlank c then skipComments false cs
    else c :: cs

/-- What is left behind that which may stand between two parts. -/
def skip (f : Flags) (cs : List Char) : List Char :=
  if f.spaced then skipComments false cs else cs

end BlobDepot.Log.Pattern
