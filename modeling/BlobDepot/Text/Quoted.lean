import BlobDepot.Text.Hex
import BlobDepot.Text.Unprintable

/-! # Quoted texts

A text between double quotes, as messages show a value that could not be used.
The quote, the backslash and the usual line controls have short escapes; any
other character without a shape of its own is written by its code point.
-/

namespace BlobDepot.Text

/-- How one character is written between double quotes. -/
def quoteChar (c : Char) : List Char :=
  if c = '"' then ['\\', '"']
  else if c = '\\' then ['\\', '\\']
  else if c = '\t' then ['\\', 't']
  else if c = '\n' then ['\\', 'n']
  else if c = '\r' then ['\\', 'r']
  else if c = '\x00' then ['\\', '0']
  else if isUnprintable c then
    ['\\', 'u', '\x7b'] ++ hexDigits c.toNat ++ ['\x7d']
  else [c]

def quoted (s : String) : String :=
  String.ofList (['"'] ++ s.toList.flatMap quoteChar ++ ['"'])

end BlobDepot.Text
