import BlobDepot.Decimal.Binary64

/-! # The fewest digits that read back

Every decimal in an interval around a binary number is read as that number.  The
text of a number is the decimal of that interval with the fewest digits, and
among those the one nearest to the number.  `Binary64.shortest` looks for it on
the grids of one digit, two digits and so on; seventeen digits always suffice.

`Binary64.render` writes that decimal: positionally, with at least one digit on
each side of the point, if at most four zeros separate the point from the digits
behind it and at most sixteen digits stand in front of it, and with an exponent
otherwise.
-/

namespace BlobDepot.Decimal

/-- The number `digits * 10 ^ exponent`. -/
structure Digits where
  digits : Nat
  exponent : Int
  deriving DecidableEq, Repr

/-- A ratio `num / den` divided by `10 ^ e`, as a ratio of natural numbers. -/
def shiftRatio (num den : Nat) (e : Int) : Nat × Nat :=
  if 0 ≤ e then (num, den * Nat.pow 10 e.toNat) else (num * Nat.pow 10 (-e).toNat, den)

namespace Binary64

/-- The number as a ratio, in quarters of the unit of its last bit so that both
    ends of its interval are whole. -/
def quarters (x : Binary64) : Nat × Nat :=
  scaleRatio (4 * x.mantissa) 4 x.exponent

/-- The ratio `num / den` is read back as `x`: it lies less than half a unit of the
    mantissa off (below a power of two a quarter), or exactly at the end of the
    interval if the mantissa is even. -/
def readsBack (x : Binary64) (num den : Nat) : Bool :=
  let (n, d) := scaleRatio num den (-x.exponent)
  let low := if x.mantissa = Nat.pow 2 52 then 4 * x.mantissa - 1 else 4 * x.mantissa - 2
  let high := 4 * x.mantissa + 2
  if x.mantissa % 2 = 0 then low * d ≤ 4 * n && 4 * n ≤ high * d
  else low * d < 4 * n && 4 * n < high * d

/-- The nearest decimal with unit `10 ^ e` that is read back as `x`: one of the
    two neighbours of `x` on that grid. -/
def onGrid? (x : Binary64) (e : Int) : Option Digits :=
  let (num, den) := x.quarters
  let (n, d) := shiftRatio num den e
  let below := n / d
  let reads (k : Nat) : Bool :=
    let (kn, kd) := shiftRatio k 1 (-e)
    x.readsBack kn kd
  let near := roundHalfEven n d
  let far := if near = below then below + 1 else below
  if reads near then some ⟨near, e⟩
  else if reads far then some ⟨far, e⟩
  else none

/-- The number of digits in front of the decimal point, as an upper bound from the
    binary exponent. -/
def decimalWidth (x : Binary64) : Int :=
  let (num, den) := x.quarters
  let w : Int := ((toString (num / den)).length : Int)
  if den ≤ num then w
  else -(((toString (den / num)).length : Int) - 1)

/-- The first grid with a decimal that is read back, from coarse to fine. -/
def search (x : Binary64) (e : Int) : Nat → Digits
  | 0 => ⟨0, 0⟩
  | n + 1 => (x.onGrid? e).getD (search x (e - 1) n)

end Binary64

/-- The same number without zeros at the end of its digits; `fuel` bounds how many
    are dropped. -/
def Digits.dropZeros (fuel : Nat) (d : Digits) : Digits :=
  match fuel with
  | 0 => d
  | fuel + 1 =>
    if d.digits ≠ 0 ∧ d.digits % 10 = 0 then dropZeros fuel ⟨d.digits / 10, d.exponent + 1⟩ else d

namespace Binary64

/-- The decimal with the fewest digits that is read back as `x`. -/
def shortest (x : Binary64) : Digits :=
  (x.search x.decimalWidth 20).dropZeros 20

end Binary64

def Digits.render (d : Digits) : String :=
  let ds := (toString d.digits).toList
  let n : Int := ds.length
  -- The digits in front of the point; if negative, that many zeros follow the point.
  let point := n + d.exponent
  if n ≤ point ∧ point ≤ 16 then
    String.ofList (ds ++ List.replicate (point - n).toNat '0') ++ ".0"
  else if 0 < point ∧ point ≤ 16 then
    String.ofList (ds.take point.toNat ++ ['.'] ++ ds.drop point.toNat)
  else if -5 < point ∧ point ≤ 0 then
    String.ofList (['0', '.'] ++ List.replicate (-point).toNat '0' ++ ds)
  else
    let fraction := if ds.length = 1 then [] else '.' :: ds.drop 1
    String.ofList (ds.take 1 ++ fraction ++ ['e']) ++ toString (point - 1)

def Binary64.render (x : Binary64) : String :=
  if x.mantissa = 0 then "0.0" else x.shortest.render

end BlobDepot.Decimal
