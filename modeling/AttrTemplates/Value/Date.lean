/-!
# `AttrTemplates.Value.Date`: days of the calendar

A `Date` is a day by year, month and day. `Date.dayNumber` counts the days since the year 1
began, and `Date.ofDayNumber?` is the day of a number; the week, and the day an offset from
universal time falls on, are found by these numbers.
-/

set_option autoImplicit false

namespace AttrTemplates

/-- A day of the calendar. -/
structure Date where
  year : Nat
  month : Nat
  day : Nat
  deriving DecidableEq, Repr, Inhabited

/-- A number with a character in front, up to a width. -/
def paddedWith (c : Char) (width n : Nat) : String :=
  let digits := toString n
  String.ofList (List.replicate (width - digits.length) c) ++ digits

/-- A number with zeros in front, up to a width. -/
def zeroPadded (width n : Nat) : String := paddedWith '0' width n

/-- Whether a year has a 29th of February. -/
def isLeapYear (year : Nat) : Bool := year % 4 == 0 && (year % 100 != 0 || year % 400 == 0)

/-- The number of days of a month. -/
def daysOfMonth (year month : Nat) : Nat :=
  if month == 2 then if isLeapYear year then 29 else 28
  else if month == 4 || month == 6 || month == 9 || month == 11 then 30
  else 31

/-- The last year of the calendar. -/
def lastYear : Nat := 9999

/-- The days before a year, the first being the year 1. -/
def daysBeforeYear (year : Nat) : Nat :=
  let years := year - 1
  years * 365 + years / 4 - years / 100 + years / 400

/-- The days before a month in its year. -/
def daysBeforeMonth (year : Nat) : (month : Nat) → Nat
  | 0 | 1 => 0
  | month + 1 => daysBeforeMonth year month + daysOfMonth year month

namespace Date

/-- Whether there is such a day, in a year from 1 to 9999. -/
def isValid (d : Date) : Bool :=
  1 ≤ d.year && d.year ≤ lastYear && 1 ≤ d.month && d.month ≤ 12
    && 1 ≤ d.day && d.day ≤ daysOfMonth d.year d.month

/-- The first day of the calendar. -/
def first : Date := ⟨1, 1, 1⟩

/-- The last day of the calendar. -/
def last : Date := ⟨lastYear, 12, 31⟩

/-- The number of a date in its year, from one. -/
def dayOfYear (d : Date) : Nat := daysBeforeMonth d.year d.month + d.day

/-- The number of a date, counted from the first day of year 1, which has the number one. -/
def dayNumber (d : Date) : Nat := daysBeforeYear d.year + d.dayOfYear

/-- The month and the day of a number within a year, looked for from a month on; so many months
are left. -/
def inYear (year month n : Nat) : (left : Nat) → Nat × Nat
  | 0 => (month, n)
  | left + 1 =>
    let days := daysOfMonth year month
    if n ≤ days then (month, n) else inYear year (month + 1) (n - days) left

/-- The year that a day number falls in. The calendar repeats every 400 years; the last of the
centuries and of the years in such a cycle is a day longer than the others. -/
def yearOf (n : Nat) : Nat :=
  let n := n - 1
  let inCycle := n % 146097
  let century := min 3 (inCycle / 36524)
  let inCentury := inCycle - century * 36524
  let inFour := inCentury % 1461
  n / 146097 * 400 + century * 100 + inCentury / 1461 * 4 + min 3 (inFour / 365) + 1

/-- The day of a number, if the calendar has one. -/
def ofDayNumber? (n : Int) : Option Date :=
  if n < 1 || n > (last.dayNumber : Int) then none
  else
    let year := yearOf n.toNat
    let (month, day) := inYear year 1 (n.toNat - daysBeforeYear year) 11
    some ⟨year, month, day⟩

/-- The day of the week, Monday being zero. -/
def weekday (d : Date) : Nat := (d.dayNumber + 6) % 7

/-- The week of a date and the year that week belongs to: the one its Thursday is in. -/
def week (d : Date) : Nat × Nat :=
  let thursday := d.dayNumber - d.weekday + 3
  let year := yearOf thursday
  (year, (thursday - daysBeforeYear year - 1) / 7 + 1)

/-- A date as `2024-01-31`. -/
def text (d : Date) : String :=
  zeroPadded 4 d.year ++ "-" ++ zeroPadded 2 d.month ++ "-" ++ zeroPadded 2 d.day

/-- The names of the days of the week. -/
def weekdayNames : List String := ["Mon", "Tue", "Wed", "Thu", "Fri", "Sat", "Sun"]

/-- The names of the months. -/
def monthNames : List String :=
  ["Jan", "Feb", "Mar", "Apr", "May", "Jun", "Jul", "Aug", "Sep", "Oct", "Nov", "Dec"]

/-- A date with a time of day, given as text, as in `Thu Feb 29 12:34:56 2024`. -/
def spelled (d : Date) (time : String) : String :=
  weekdayNames.getD d.weekday "" ++ " " ++ monthNames.getD (d.month - 1) "" ++ " "
    ++ paddedWith ' ' 2 d.day ++ " " ++ time ++ " " ++ zeroPadded 4 d.year

example : (Date.mk 1 1 1).dayNumber = 1 ∧ (Date.mk 2024 2 29).weekday = 3 := by decide

example : Date.ofDayNumber? 738945 = some ⟨2024, 2, 29⟩ := by decide

end Date

end AttrTemplates
