/-! # Ratios rounded to 53 bits

The numbers of the IEEE-754 double format that a ratio of counters can reach:
zero, and positive normal numbers.  Such a number is a 53-bit integer times a
power of two, held exactly, so that rounding, division and printing are integer
arithmetic.

* `Binary64.nearest` rounds a ratio to the nearest number, a half to the even one.
* `Binary64.quotient` divides two numbers and rounds once.
-/

namespace BlobDepot.Decimal

/-- The number `mantissa * 2 ^ exponent`.  The mantissa is zero or has exactly 53
    bits. -/
structure Binary64 where
  mantissa : Nat
  exponent : Int
  deriving DecidableEq, Repr

/-- A ratio `num / den` times `2 ^ e`, as a ratio of natural numbers again. -/
def scaleRatio (num den : Nat) (e : Int) : Nat × Nat :=
  if 0 ≤ e then (num * Nat.pow 2 e.toNat, den) else (num, den * Nat.pow 2 (-e).toNat)

/-- The integer nearest to `num / den`; of two equally near the even one. -/
def roundHalfEven (num den : Nat) : Nat :=
  let q := num / den
  let r := num % den
  if 2 * r < den then q
  else if den < 2 * r then q + 1
  else if q % 2 = 0 then q else q + 1

namespace Binary64

def zero : Binary64 := ⟨0, 0⟩

/-- The exponent that gives the rounded ratio a mantissa of 53 bits. -/
def exponentFor (num den : Nat) : Int :=
  let e : Int := (num.log2 : Int) - den.log2 - 52
  let (n, d) := scaleRatio num den (-e)
  if n < Nat.pow 2 52 * d then e - 1 else e

def nearest (num den : Nat) : Binary64 :=
  if num = 0 ∨ den = 0 then zero
  else
    let e := exponentFor num den
    let (n, d) := scaleRatio num den (-e)
    let m := roundHalfEven n d
    if m = Nat.pow 2 53 then ⟨Nat.pow 2 52, e + 1⟩ else ⟨m, e⟩

def ofNat (n : Nat) : Binary64 := nearest n 1

def quotient (a b : Binary64) : Binary64 :=
  let (n, d) := scaleRatio a.mantissa b.mantissa (a.exponent - b.exponent)
  nearest n d

end Binary64

end BlobDepot.Decimal
