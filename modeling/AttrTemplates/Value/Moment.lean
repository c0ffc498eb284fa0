import AttrTemplates.Value.Duration

/-!
# `AttrTemplates.Value.Moment`: dates and times

Data files may hold dates, times of day, and both together with or without an offset from
universal time. `Moment.text` is how one appears in output, `Moment.shown` how it appears
inside the text of a list or mapping.
-/

set_option autoImplicit false

namespace AttrTemplates

/-- A time of day. -/
structure TimeOfDay where
  hour : Nat
  minute : Nat
  second : Nat
  microsecond : Nat
  deriving DecidableEq, Repr, Inhabited

namespace TimeOfDay

/-- Whether there is such a time of day. -/
def isValid (t : TimeOfDay) : Bool :=
  t.hour < 24 && t.minute < 60 && t.second < 60 && t.microsecond < 1000000

/-- The beginning of a day. -/
def first : TimeOfDay := ⟨0, 0, 0, 0⟩

/-- The end of a day. -/
def last : TimeOfDay := ⟨23, 59, 59, 999999⟩

/-- The whole seconds since the day began. -/
def seconds (t : TimeOfDay) : Nat := (t.hour * 60 + t.minute) * 60 + t.second

/-- The time so many seconds, less than a day, and microseconds after the day began. -/
def ofSeconds (n microsecond : Nat) : TimeOfDay := ⟨n / 3600, n / 60 % 60, n % 60, microsecond⟩

/-- A time to the second as `23:59:01`. -/
def clockText (t : TimeOfDay) : String :=
  zeroPadded 2 t.hour ++ ":" ++ zeroPadded 2 t.minute ++ ":" ++ zeroPadded 2 t.second

/-- A time as `23:59:01`, with six decimals if it has a fraction. -/
def text (t : TimeOfDay) : String :=
  t.clockText ++ if t.microsecond == 0 then "" else "." ++ zeroPadded 6 t.microsecond

/-- The parts of a time of day, zeros at the end left out. -/
def parts (t : TimeOfDay) : List Nat :=
  if t.microsecond != 0 then [t.hour, t.minute, t.second, t.microsecond]
  else if t.second != 0 then [t.hour, t.minute, t.second]
  else [t.hour, t.minute]

end TimeOfDay

/-- A date, a time of day, or both; a time may have an offset in seconds. -/
inductive Moment where
  | date (d : Date)
  | time (t : TimeOfDay) (offset : Option Int)
  | dateTime (d : Date) (t : TimeOfDay) (offset : Option Int)
  deriving DecidableEq, Repr, Inhabited

namespace Moment

/-- A moment as text, with `between` separating date and time. -/
def textWith (between : String) : Moment → String
  | date d => d.text
  | time t offset => t.text ++ (offset.map offsetText).getD ""
  | dateTime d t offset => d.text ++ between ++ t.text ++ (offset.map offsetText).getD ""

/-- A moment in output. -/
def text (m : Moment) : String := m.textWith " "

/-- A moment in the form that data exchange uses. -/
def exchangeText (m : Moment) : String := m.textWith "T"

/-- The name of the type of a moment in messages. -/
def typeName : Moment → String
  | date _ => "date"
  | time .. => "time"
  | dateTime .. => "datetime"

/-- A moment inside the text of a list or mapping. -/
def shown (m : Moment) : String :=
  let (numbers, offset) : List Nat × Option Int := match m with
    | date d => ([d.year, d.month, d.day], none)
    | time t offset => (t.parts, offset)
    | dateTime d t offset => ([d.year, d.month, d.day] ++ t.parts, offset)
  let zone := match offset with
    | some o => ["tzinfo=" ++ zoneShown o]
    | none => []
  "datetime." ++ m.typeName ++ "(" ++ ", ".intercalate (numbers.map toString ++ zone) ++ ")"

/-- The seconds since the calendar began at which a date and a time lie, less their offset. -/
def secondsOf (d : Date) (t : TimeOfDay) (offset : Int) : Int :=
  (d.dayNumber : Int) * 86400 + t.seconds - offset

/-- Whether two moments are the same: with offsets, when universal time is. -/
def isSame : Moment → Moment → Bool
  | dateTime d t (some o), dateTime d' t' (some o') =>
    secondsOf d t o == secondsOf d' t' o' && t.microsecond == t'.microsecond
  | m, m' => m == m'

/-- Date and time as they are in universal time, given the offset they have; none off the
calendar. -/
def universal? (d : Date) (t : TimeOfDay) (offset : Int) : Option (Date × TimeOfDay) :=
  let s := secondsOf d t offset
  (Date.ofDayNumber? (s / 86400)).map fun d =>
    (d, TimeOfDay.ofSeconds (s % 86400).toNat t.microsecond)

/-- The seconds from the beginning of the year 1970 to a date and a time with an offset. -/
def sinceEpoch (d : Date) (t : TimeOfDay) (offset : Int) : Int :=
  secondsOf d t offset - secondsOf ⟨1970, 1, 1⟩ .first 0

end Moment

end AttrTemplates
