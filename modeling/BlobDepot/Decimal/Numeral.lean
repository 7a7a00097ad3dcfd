/-! # Decimal numerals

Natural numbers written in ASCII digits, with leading zeros and one plus sign
allowed in front.  Nothing else is a numeral: no blank, no minus sign, no
separator between digits.
-/

namespace BlobDepot.Decimal

/-- The number that a list of digits stands for, read after `acc`. -/
def valueAfter (acc : Nat) (digits : List Char) : Nat :=
  digits.foldl (fun n c => 10 * n + (c.toNat - '0'.toNat)) acc

/-- The digits of a numeral without its plus sign. -/
def unsigned : List Char → List Char
  | '+' :: cs => cs
  | cs => cs

/-- The number that a text is a numeral of. -/
def numeral? (cs : List Char) : Option Nat :=
  let digits := unsigned cs
  if digits ≠ [] ∧ digits.all Char.isDigit then some (valueAfter 0 digits) else none

/-- The number that a text is a numeral of, if it is below `bound`. -/
def numeralBelow? (bound : Nat) (cs : List Char) : Option Nat :=
  (numeral? cs).filter (· < bound)

end BlobDepot.Decimal
