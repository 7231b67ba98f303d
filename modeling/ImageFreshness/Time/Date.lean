/-!
# Calendar dates

Dates of the Gregorian calendar, which is extended to all years, zero and negative ones included.
`Date.dayNumber` counts the days from 1970-01-01 and `Date.ofDayNumber` is its inverse on valid
dates.
-/

namespace ImageFreshness

/-- A year, a month from 1 on and a day from 1 on. -/
structure Date where
  year : Int
  month : Nat
  day : Nat
  deriving DecidableEq, Repr

namespace Date

def isLeap (year : Int) : Bool := year % 4 = 0 ∧ (year % 100 ≠ 0 ∨ year % 400 = 0)

def monthLengths (year : Int) : List Nat :=
  [31, if isLeap year then 29 else 28, 31, 30, 31, 30, 31, 31, 30, 31, 30, 31]

def IsValid (d : Date) : Prop :=
  1 ≤ d.month ∧ d.month ≤ 12 ∧ 1 ≤ d.day ∧ d.day ≤ (monthLengths d.year).getD (d.month - 1) 0

instance (d : Date) : Decidable d.IsValid := by unfold IsValid; infer_instance

def yearStart (year : Int) : Int :=
  let past := year - 1
  365 * (year - 1970) + past / 4 - past / 100 + past / 400 - 477

/-- The year of a day.  The mean length of a year gives it up to one. -/
def yearOf (n : Int) : Int :=
  let estimate := 400 * (n + 719528) / 146097
  if n < yearStart estimate then estimate - 1
  else if n < yearStart (estimate + 1) then estimate
  else estimate + 1

/-- The number of days before the month with this index. -/
def daysBefore (lengths : List Nat) (index : Nat) : Nat := (lengths.take index).foldr (· + ·) 0

/-- The index of the month in which a day of the year lies, and the index of the day in it. -/
def splitDays : List Nat → Nat → Nat × Nat
  | [], n => (0, n)
  | length :: rest, n =>
    if n < length then (0, n)
    else
      let (month, day) := splitDays rest (n - length)
      (month + 1, day)

/-- The number of a date, counted from 1970-01-01. -/
def dayNumber (d : Date) : Int :=
  yearStart d.year + daysBefore (monthLengths d.year) (d.month - 1) + (d.day - 1 : Nat)

def ofDayNumber (n : Int) : Date :=
  let year := yearOf n
  let (month, day) := splitDays (monthLengths year) (n - yearStart year).toNat
  ⟨year, month + 1, day + 1⟩

end Date

end ImageFreshness
