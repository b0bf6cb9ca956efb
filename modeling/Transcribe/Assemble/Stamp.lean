/-!
# `Assemble.Stamp` — the time a file was generated

Generated files name the local time of their generation as `YYYY-MM-DD HH:MM:SS`,
each field zero-padded: four digits for the year, two for the others.
-/

namespace Transcribe

/-- A calendar date and time of day. -/
structure Stamp where
  year : Nat
  month : Nat
  day : Nat
  hour : Nat
  minute : Nat
  second : Nat
  deriving DecidableEq, Repr

/-- The decimal digits of `n`, zero-padded on the left to `width`. -/
def padded (width n : Nat) : String :=
  let digits := toString n
  String.ofList (List.replicate (width - digits.length) '0') ++ digits

/-- The stamp as `YYYY-MM-DD HH:MM:SS`. -/
def Stamp.text (s : Stamp) : String :=
  padded 4 s.year ++ "-" ++ padded 2 s.month ++ "-" ++ padded 2 s.day ++ " " ++
    padded 2 s.hour ++ ":" ++ padded 2 s.minute ++ ":" ++ padded 2 s.second

/-- Whether a year of the Gregorian calendar has a February 29. -/
def isLeapYear (y : Nat) : Bool := (y % 4 == 0 && y % 100 != 0) || y % 400 == 0

/-- The number of days of a month. -/
def daysInMonth (y m : Nat) : Nat :=
  match m with
  | 2 => if isLeapYear y then 29 else 28
  | 4 | 6 | 9 | 11 => 30
  | _ => 31

/-- The stamp names a real date and time of day. -/
def Stamp.valid (s : Stamp) : Bool :=
  s.year ≤ 9999 && 1 ≤ s.month && s.month ≤ 12 && 1 ≤ s.day && s.day ≤ daysInMonth s.year s.month &&
    s.hour < 24 && s.minute < 60 && s.second < 60

end Transcribe
