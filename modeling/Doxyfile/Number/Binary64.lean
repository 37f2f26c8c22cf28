/-!
# Numbers of double precision

A finite number of the `binary64` format is a significand below `2 ^ 53` times a power of two that
is not below `2 ^ -1074`. `Binary64.ofDecimal` gives the number nearest to a decimal one; of two
that are equally near it takes the one whose significand is even. All of it is exact arithmetic on
natural numbers.

Beyond the range of the format a decimal becomes an infinity, and close to zero it becomes zero.
-/

namespace Doxyfile

/-- A decimal number without a sign, `digits * 10 ^ exponent`. -/
structure Decimal where
  digits : Nat
  exponent : Int
deriving DecidableEq, Repr

/-- A quotient of natural numbers. -/
structure Ratio where
  num : Nat
  den : Nat
deriving DecidableEq, Repr

/-- The quotient times a power of `base`. -/
def Ratio.scale (ratio : Ratio) (base : Nat) (power : Int) : Ratio :=
  if 0 ≤ power then ⟨ratio.num * Nat.pow base power.toNat, ratio.den⟩
  else ⟨ratio.num, ratio.den * Nat.pow base (-power).toNat⟩

/-- The natural number nearest to the quotient, the even one of two. -/
def Ratio.round (ratio : Ratio) : Nat :=
  let whole := ratio.num / ratio.den
  let part := ratio.num % ratio.den
  if ratio.den < 2 * part || (2 * part = ratio.den && whole % 2 = 1) then whole + 1 else whole

/-- The value of a decimal number. -/
def Decimal.ratio (decimal : Decimal) : Ratio :=
  Ratio.scale ⟨decimal.digits, 1⟩ 10 decimal.exponent

/-- A number of the `binary64` format. -/
inductive Binary64 where
  | nan
  | infinite (negative : Bool)
  /-- The number `significand * 2 ^ exponent`, or its negative. -/
  | finite (negative : Bool) (significand : Nat) (exponent : Int)
deriving DecidableEq, Repr

namespace Binary64

/-- The bits of a full significand. -/
def precision : Nat := 53

/-- What every significand is below. -/
def significandBound : Nat := Nat.pow 2 precision

/-- The least exponent. -/
def minExponent : Int := -1074

/-- The largest exponent. -/
def maxExponent : Int := 971

/-- The exponent that gives the nearest number to a positive quotient a full significand, if the
format has so low a one. -/
def exponentFor (ratio : Ratio) : Int :=
  let rough : Int := ratio.num.log2 - ratio.den.log2 - precision
  let scaled := ratio.scale 2 (-rough)
  max minExponent (if scaled.num / scaled.den < significandBound then rough else rough + 1)

/-- The number nearest to a quotient. -/
def ofRatio (negative : Bool) (ratio : Ratio) : Binary64 :=
  if ratio.num = 0 then .finite negative 0 minExponent
  else
    let exponent := exponentFor ratio
    let significand := (ratio.scale 2 (-exponent)).round
    let (significand, exponent) :=
      if significand = significandBound then (significandBound / 2, exponent + 1)
      else (significand, exponent)
    if maxExponent < exponent then .infinite negative else .finite negative significand exponent

/-- The number nearest to a decimal one. Decimals that are far out of range are told by the place of
their first digit, so that no huge power is computed for them. -/
def ofDecimal (negative : Bool) (decimal : Decimal) : Binary64 :=
  let places : Int := (Nat.toDigits 10 decimal.digits).length + decimal.exponent
  if decimal.digits = 0 || places < -330 then .finite negative 0 minExponent
  else if 330 < places then .infinite negative
  else ofRatio negative decimal.ratio

end Binary64

end Doxyfile
