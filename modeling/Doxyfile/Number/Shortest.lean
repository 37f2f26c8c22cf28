import Doxyfile.Number.Binary64

/-!
# The shortest decimal text of a number

A number of double precision is written with the fewest digits from which it can be read back, and
of the decimals with so few digits the nearest to it; of two equally near ones the larger. The text
is positional however large or small the number is, and always has a fractional part.

The search goes over grids of decimals, from the coarsest: on each, only the two neighbours of the
number can be read back as it if any point of the grid can.
-/

namespace Doxyfile

namespace Binary64

/-- The value of a number without its sign. -/
def magnitude (significand : Nat) (exponent : Int) : Ratio :=
  Ratio.scale ⟨significand, 1⟩ 2 exponent

/-- Whether a decimal is read back as the number. -/
def readsBack (significand : Nat) (exponent : Int) (decimal : Decimal) : Bool :=
  ofDecimal false decimal == .finite false significand exponent

/-- The decimal to write for a number on the grid of the multiples of `10 ^ place`, if one of them
is read back as the number. -/
def onGrid? (significand : Nat) (exponent : Int) (place : Int) : Option Decimal :=
  let steps := (magnitude significand exponent).scale 10 (-place)
  let below : Decimal := ⟨steps.num / steps.den, place⟩
  let above : Decimal := ⟨steps.num / steps.den + 1, place⟩
  match readsBack significand exponent below, readsBack significand exponent above with
  | true, true => if 2 * (steps.num % steps.den) < steps.den then some below else some above
  | true, false => some below
  | false, true => some above
  | false, false => none

/-- The number as an exact decimal. -/
def exactDecimal (significand : Nat) (exponent : Int) : Decimal :=
  if 0 ≤ exponent then ⟨significand * Nat.pow 2 exponent.toNat, 0⟩
  else ⟨significand * Nat.pow 5 (-exponent).toNat, exponent⟩

/-- The decimal on the first grid that has one, going down from `place` over so many grids. -/
def onGrids (significand : Nat) (exponent : Int) (place : Int) : Nat → Decimal
  | 0 => exactDecimal significand exponent
  | grids + 1 =>
    match onGrid? significand exponent place with
    | some decimal => decimal
    | none => onGrids significand exponent (place - 1) grids

/-- The shortest decimal of a positive number. No number is written on a grid coarser than that of
`10 ^ 309` or needs one finer than that of `10 ^ -340`. -/
def shortest (significand : Nat) (exponent : Int) : Decimal :=
  onGrids significand exponent 309 650

end Binary64

/-- So many zeros. -/
def Decimal.zeros (count : Nat) : String :=
  String.ofList (List.replicate count '0')

/-- A decimal in positional notation, with at least one digit on each side of the point. -/
def Decimal.positional (decimal : Decimal) : String :=
  let digits := Nat.toDigits 10 decimal.digits
  if 0 ≤ decimal.exponent then
    String.ofList digits ++ zeros decimal.exponent.toNat ++ ".0"
  else
    let places := (-decimal.exponent).toNat
    if places < digits.length then
      String.ofList (digits.take (digits.length - places)) ++ "." ++
        String.ofList (digits.drop (digits.length - places))
    else "0." ++ zeros (places - digits.length) ++ String.ofList digits

/-- The text of a number. -/
def Binary64.text : Binary64 → String
  | .nan => "NaN"
  | .infinite negative => (if negative then "-" else "") ++ "inf"
  | .finite negative significand exponent =>
    let decimal := if significand = 0 then ⟨0, 0⟩ else shortest significand exponent
    (if negative then "-" else "") ++ decimal.positional

end Doxyfile
