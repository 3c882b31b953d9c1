/-!
# Timestamps

A point of civil time in the proleptic Gregorian calendar, years 1 to 9999, to the microsecond, with
its offset from UTC in microseconds if that is known. The offset is less than a day either way.
-/
namespace TrackerSearch.Time

/-- Microseconds in a second. -/
def micro : Nat := 1000000

structure Timestamp where
  year : Nat
  month : Nat
  day : Nat
  hour : Nat
  minute : Nat
  second : Nat
  microsecond : Nat
  /-- Distance from UTC in microseconds, positive to the east; `none` where it is not known. -/
  offset : Option Int
  deriving Repr, DecidableEq

def isLeapYear (year : Nat) : Bool := year % 4 == 0 && (year % 100 != 0 || year % 400 == 0)

def daysInMonth (year month : Nat) : Nat :=
  if month = 2 then (if isLeapYear year then 29 else 28)
  else if month = 4 ∨ month = 6 ∨ month = 9 ∨ month = 11 then 30
  else 31

/-- A date of the calendar. -/
def ValidDate (year month day : Nat) : Prop :=
  1 ≤ year ∧ year ≤ 9999 ∧ 1 ≤ month ∧ month ≤ 12 ∧ 1 ≤ day ∧ day ≤ daysInMonth year month

instance (year month day : Nat) : Decidable (ValidDate year month day) :=
  inferInstanceAs (Decidable (_ ∧ _))

/-- An offset of less than a day. -/
def ValidOffset (offset : Int) : Prop := -86400000000 < offset ∧ offset < 86400000000

instance (offset : Int) : Decidable (ValidOffset offset) := inferInstanceAs (Decidable (_ ∧ _))

/-- Every field is in its range. -/
def Timestamp.Valid (t : Timestamp) : Prop :=
  ValidDate t.year t.month t.day ∧ t.hour < 24 ∧ t.minute < 60 ∧ t.second < 60 ∧
    t.microsecond < micro ∧ ∀ offset ∈ t.offset, ValidOffset offset

instance (t : Timestamp) : Decidable t.Valid := inferInstanceAs (Decidable (_ ∧ _))

/-- The number of days before the first of January of a year. -/
def daysBeforeYear (year : Nat) : Nat :=
  let y := year - 1
  y * 365 + y / 4 - y / 100 + y / 400

/-- Step `days` days on from the first day of a month. -/
def dateFrom (year month : Nat) : Nat → Nat → Nat × Nat × Nat
  | 0, days => (year, month, days + 1)
  | steps + 1, days =>
    if days < daysInMonth year month then (year, month, days + 1)
    else
      let (year', month') := if month = 12 then (year + 1, 1) else (year, month + 1)
      dateFrom year' month' steps (days - daysInMonth year month)

/-- The point of time some microseconds after the start of 1970, in UTC. -/
def Timestamp.ofUnix (elapsed : Nat) : Timestamp :=
  let seconds := elapsed / micro
  let days := seconds / 86400
  let (year, month, day) := dateFrom 1970 1 (days / 28) days
  { year, month, day, hour := seconds / 3600 % 24, minute := seconds / 60 % 60
    second := seconds % 60, microsecond := elapsed % micro, offset := some 0 }

/-- The date of a day of an ISO week: weeks start on Monday, and the first one of a year is the one
with the year's first Thursday. -/
def dateOfWeek? (year week day : Nat) : Option (Nat × Nat × Nat) :=
  if year < 1 ∨ 9999 < year then none
  else
    -- Monday is 0.
    let firstWeekday := daysBeforeYear year % 7
    let longYear := firstWeekday = 3 ∨ (firstWeekday = 2 ∧ isLeapYear year)
    if ¬(1 ≤ week ∧ (week ≤ 52 ∨ (week = 53 ∧ longYear))) then none
    else if day < 1 ∨ 7 < day then none
    else
      -- Days from the Monday of the first week, counted from that Monday or from new year's day.
      let ahead := (week - 1) * 7 + (day - 1)
      if firstWeekday ≤ 3 then
        -- The first week begins on or before new year's day.
        if firstWeekday ≤ ahead then some (dateFrom year 1 13 (ahead - firstWeekday))
        else if year = 1 then none
        else some (year - 1, 12, 32 - (firstWeekday - ahead))
      else some (dateFrom year 1 13 (ahead + (7 - firstWeekday)))

end TrackerSearch.Time
