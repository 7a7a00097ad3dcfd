import BlobDepot.Text.Hex

/-! # Percent-encoding

Octets written as a percent sign and two hexadecimal digits.  A percent sign
that no two digits follow stands for itself, so decoding never fails.
-/

namespace BlobDepot.Text.Percent

/-- The value of an octet that is a hexadecimal digit. -/
def digit? (b : UInt8) : Option Nat :=
  hexValue? (Char.ofNat b.toNat)

/-- The octets that an encoded sequence stands for. -/
def decode : List UInt8 → List UInt8
  | [] => []
  | [a] => [a]
  | [a, b] => [a, b]
  | a :: b :: c :: rest =>
    if a = 0x25 then
      match digit? b, digit? c with
      | some hi, some lo => UInt8.ofNat (16 * hi + lo) :: decode rest
      | _, _ => a :: decode (b :: c :: rest)
    else a :: decode (b :: c :: rest)

/-- The octets of a form value: a plus sign stands for a space, and the rest is
    percent-encoded. -/
def decodeForm (bs : List UInt8) : List UInt8 :=
  decode (bs.map fun b => if b = 0x2B then 0x20 else b)

end BlobDepot.Text.Percent
