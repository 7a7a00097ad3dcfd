import BlobDepot.Text.Hex

/-! # JSON objects as text

The answers of the depot are flat objects of texts and numbers, written without
blanks and in the order in which their fields are given.  A text is escaped as
little as JSON allows: the quote, the backslash and the controls below U+0020.
-/

namespace BlobDepot.Text.Json

/-- How one character stands in a JSON text. -/
def escapeChar (c : Char) : List Char :=
  if c = '"' then ['\\', '"']
  else if c = '\\' then ['\\', '\\']
  else if c = '\x08' then ['\\', 'b']
  else if c = '\x0c' then ['\\', 'f']
  else if c = '\n' then ['\\', 'n']
  else if c = '\r' then ['\\', 'r']
  else if c = '\t' then ['\\', 't']
  else if c.toNat < 0x20 then ['\\', 'u'] ++ hexPadded 4 c.toNat
  else [c]

/-- The value of a field: a text, a natural number, or a number whose digits are
    already chosen. -/
inductive Value where
  | text (s : String)
  | count (n : Nat)
  | decimal (digits : String)
  deriving DecidableEq, Repr

/-- A text as a JSON string. -/
def literal (s : String) : String :=
  String.ofList (['"'] ++ s.toList.flatMap escapeChar ++ ['"'])

def Value.render : Value → String
  | .text s => literal s
  | .count n => toString n
  | .decimal digits => digits

/-- An object with the given fields, in their order. -/
def object (fields : List (String × Value)) : String :=
  let members := fields.map fun (name, value) => literal name ++ ":" ++ value.render
  "\x7b" ++ ",".intercalate members ++ "\x7d"

end BlobDepot.Text.Json
