import Doxyfile.Toml.Reader
import Doxyfile.Toml.Value

/-!
# Numbers of a TOML document

A whole number is decimal with an optional sign, or hexadecimal, octal or binary without one, and
lies within 64 bits. A number with a fraction or an exponent is one of double precision. Underscores
may stand between digits, and a decimal number starts with no needless zero.
-/

namespace Doxyfile.Toml

/-! ## Digits -/

/-- The digits at the head of a text, an underscore being allowed before each. -/
def moreDigits (isDigit : Char → Bool) : List Char → List Char × List Char
  | [] => ([], [])
  | '_' :: c :: cs =>
    if isDigit c then
      let (digits, rest) := moreDigits isDigit cs
      (c :: digits, rest)
    else ([], '_' :: c :: cs)
  | c :: cs =>
    if isDigit c then
      let (digits, rest) := moreDigits isDigit cs
      (c :: digits, rest)
    else ([], c :: cs)

/-- A digit and those after it. -/
def someDigits (isDigit : Char → Bool) : Reader (List Char)
  | [] => none
  | c :: cs =>
    if isDigit c then
      let (digits, rest) := moreDigits isDigit cs
      some (c :: digits, rest)
    else none

/-- The digits of a decimal number before its point: a zero stands alone. -/
def wholeDigits : Reader (List Char)
  | '0' :: cs => some (['0'], cs)
  | cs => someDigits Char.isDigit cs

/-- The value of a digit in any of the bases. -/
def digitValue (c : Char) : Nat :=
  if c.isDigit then c.toNat - '0'.toNat
  else if c.isLower then c.toNat - 'a'.toNat + 10
  else c.toNat - 'A'.toNat + 10

/-- The number that digits make in a base. -/
def ofDigits (base : Nat) (digits : List Char) : Nat :=
  digits.foldl (fun sum digit => base * sum + digitValue digit) 0

/-- The digits of a base up to sixteen. -/
def isDigitOf (base : Nat) (c : Char) : Bool :=
  (c.isDigit || ('a' ≤ c && c ≤ 'f') || ('A' ≤ c && c ≤ 'F')) && digitValue c < base

/-- A sign, if there is one: whether it is a minus, and the rest. -/
def sign : List Char → Bool × List Char
  | '+' :: cs => (false, cs)
  | '-' :: cs => (true, cs)
  | cs => (false, cs)

/-! ## Whole numbers -/

/-- The least magnitude that a positive number of 64 bits does not have. -/
def integerBound : Nat := 0x8000000000000000

/-- A whole number within 64 bits. -/
def integer? (negative : Bool) (magnitude : Nat) : Option Value :=
  if negative then if magnitude ≤ integerBound then some (.integer (-magnitude)) else none
  else if magnitude < integerBound then some (.integer magnitude) else none

/-- A whole number in the digits of a base. -/
def basedInteger (base : Nat) (cs : List Char) : Option (Value × List Char) := do
  let (digits, rest) ← someDigits (isDigitOf base) cs
  some (← integer? false (ofDigits base digits), rest)

/-! ## Numbers of double precision -/

/-- A point and the digits after it. -/
def fraction? : Reader (List Char)
  | '.' :: cs => someDigits Char.isDigit cs
  | _ => none

/-- An exponent of ten. -/
def exponent? : Reader Int
  | c :: cs =>
    if c = 'e' ∨ c = 'E' then do
      let (negative, cs) := sign cs
      let (digits, rest) ← someDigits Char.isDigit cs
      let magnitude : Int := ofDigits 10 digits
      some (if negative then -magnitude else magnitude, rest)
    else none
  | [] => none

/-- The number nearest to a decimal one. One that is too large has no value, while one that is too
small is the negative infinity. -/
def float? (negative : Bool) (decimal : Decimal) : Option Value :=
  match Binary64.ofDecimal negative decimal with
  | .infinite false => none
  | value => some (.float value)

/-- A decimal number: a whole one, or with fraction or exponent one of double precision. -/
def decimal (negative : Bool) (cs : List Char) : Option (Value × List Char) := do
  let (whole, cs) ← wholeDigits cs
  match fraction? cs with
  | some (fraction, cs) =>
    let (exponent, rest) := (exponent? cs).getD (0, cs)
    let decimal : Decimal := ⟨ofDigits 10 (whole ++ fraction), exponent - fraction.length⟩
    some (← float? negative decimal, rest)
  | none =>
    match exponent? cs with
    | some (exponent, rest) => some (← float? negative ⟨ofDigits 10 whole, exponent⟩, rest)
    | none => some (← integer? negative (ofDigits 10 whole), cs)

/-- A number in any form. -/
def number : Reader Value
  | '0' :: 'x' :: cs => basedInteger 16 cs
  | '0' :: 'o' :: cs => basedInteger 8 cs
  | '0' :: 'b' :: cs => basedInteger 2 cs
  | cs =>
    let (negative, cs) := sign cs
    match cs with
    | 'i' :: 'n' :: 'f' :: rest => some (.float (.infinite negative), rest)
    | 'n' :: 'a' :: 'n' :: rest => some (.float .nan, rest)
    | cs => decimal negative cs

end Doxyfile.Toml
