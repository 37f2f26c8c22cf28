import Doxyfile.Toml.Reader

/-!
# Dates and times of a TOML document

A date is a day of the calendar, a time one of the day, a leap second included. A date may have a
time after it and that an offset from universal time. Only the text past them is given back: these
readers check that there is a date or a time and say where it ends.
-/

namespace Doxyfile.Toml

/-- A number of two digits. -/
def twoDigits : Reader Nat
  | a :: b :: cs =>
    if a.isDigit && b.isDigit then
      some (10 * (a.toNat - '0'.toNat) + (b.toNat - '0'.toNat), cs)
    else none
  | _ => none

/-- A number of two digits that is not above a limit. -/
def twoDigitsUpTo (limit : Nat) (cs : List Char) : Option (Nat × List Char) := do
  let (value, rest) ← twoDigits cs
  if value ≤ limit then some (value, rest) else none

/-- The text past a character it has to start with. -/
def past? (expected : Char) : List Char → Option (List Char)
  | c :: cs => if c = expected then some cs else none
  | [] => none

/-- Whether a year has a leap day. -/
def isLeapYear (year : Nat) : Bool :=
  year % 4 == 0 && (year % 100 != 0 || year % 400 == 0)

/-- The days of a month. -/
def daysOf (year month : Nat) : Nat :=
  match month with
  | 2 => if isLeapYear year then 29 else 28
  | 4 | 6 | 9 | 11 => 30
  | _ => 31

/-- The text past a date, as in `1979-05-27`. -/
def date? (cs : List Char) : Option (List Char) := do
  let (century, cs) ← twoDigits cs
  let (year, cs) ← twoDigits cs
  let cs ← past? '-' cs
  let (month, cs) ← twoDigitsUpTo 12 cs
  let cs ← past? '-' cs
  let (day, cs) ← twoDigitsUpTo (daysOf (100 * century + year) month) cs
  if month = 0 ∨ day = 0 then none else some cs

/-- The text past a fraction of a second, if there is one. -/
def pastFraction : List Char → List Char
  | '.' :: c :: cs => if c.isDigit then cs.dropWhile Char.isDigit else '.' :: c :: cs
  | cs => cs

/-- The text past a time, as in `07:32:00.5`. -/
def time? (cs : List Char) : Option (List Char) := do
  let (_, cs) ← twoDigitsUpTo 23 cs
  let cs ← past? ':' cs
  let (_, cs) ← twoDigitsUpTo 59 cs
  let cs ← past? ':' cs
  let (_, cs) ← twoDigitsUpTo 60 cs
  some (pastFraction cs)

/-- The text past an offset from universal time, as in `Z` or `-08:00`. -/
def offset? : List Char → Option (List Char)
  | [] => none
  | c :: cs =>
    if c = 'Z' ∨ c = 'z' then some cs
    else if c = '+' ∨ c = '-' then do
      let (_, cs) ← twoDigitsUpTo 23 cs
      let cs ← past? ':' cs
      let (_, cs) ← twoDigitsUpTo 59 cs
      some cs
    else none

/-- The text past the time that may follow a date, with the offset that may follow that. -/
def pastTimeOfDay : List Char → List Char
  | [] => []
  | c :: cs =>
    if c = 'T' ∨ c = 't' ∨ c = ' ' then
      match time? cs with
      | some rest => (offset? rest).getD rest
      | none => c :: cs
    else c :: cs

/-- The text past a date, a time, or both. -/
def dateTime? (cs : List Char) : Option (List Char) :=
  match date? cs with
  | some rest => some (pastTimeOfDay rest)
  | none => time? cs

end Doxyfile.Toml
