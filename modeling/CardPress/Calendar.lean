/-!
# Dates

The date and time of day of a number of seconds since the beginning of 1970, by the calendar that
drops three leap years in four hundred.
-/

namespace CardPress.Calendar

structure Date where
  year : Nat
  month : Nat
  day : Nat
  deriving DecidableEq, Repr

def isLeap (year : Nat) : Bool :=
  year % 4 == 0 && (year % 100 != 0 || year % 400 == 0)

def daysInYear (year : Nat) : Nat :=
  if isLeap year then 366 else 365

def daysInMonth (year month : Nat) : Nat :=
  if month = 2 then (if isLeap year then 29 else 28)
  else if [4, 6, 9, 11].contains month then 30
  else 31

/-- The month that a day of the year falls in, counted from a month on, and what is left of the
days. -/
def monthOf (year : Nat) : (months month days : Nat) → Nat × Nat
  | 0, month, days => (month, days)
  | months + 1, month, days =>
    if days < daysInMonth year month then (month, days)
    else monthOf year months (month + 1) (days - daysInMonth year month)

/-- The date some days after the first of January of a year. -/
def dateFrom (year days : Nat) : Date :=
  if days < daysInYear year then
    let (month, rest) := monthOf year 11 1 days
    ⟨year, month, rest + 1⟩
  else dateFrom (year + 1) (days - daysInYear year)
termination_by days
decreasing_by
  have : 0 < daysInYear year := by unfold daysInYear; split <;> omega
  omega

/-- A number with zeros in front up to some width. -/
def padded (width n : Nat) : String :=
  let digits := toString n
  String.ofList (List.replicate (width - digits.length) '0') ++ digits

/-- Date and time, with nine places of a second. -/
def text (seconds nanoseconds : Nat) : String :=
  let date := dateFrom 1970 (seconds / 86400)
  let rest := seconds % 86400
  padded 4 date.year ++ "-" ++ padded 2 date.month ++ "-" ++ padded 2 date.day ++ "T" ++
    padded 2 (rest / 3600) ++ ":" ++ padded 2 (rest / 60 % 60) ++ ":" ++ padded 2 (rest % 60) ++
    "." ++ padded 9 nanoseconds ++ "Z"

end CardPress.Calendar
