import AttrTemplates.Number.Digits
import AttrTemplates.Value.Date

/-!
# `AttrTemplates.Value.Duration`: stretches of time and offsets

A `Duration` counts microseconds; its days may be negative, the seconds and microseconds beside
them are not. An offset from universal time is a number of seconds, which may count as a time
zone of its own.
-/

set_option autoImplicit false

namespace AttrTemplates

/-- A stretch of time. -/
structure Duration where
  microseconds : Int
  deriving DecidableEq, Repr, Inhabited

namespace Duration

/-- A duration of so many seconds. -/
def ofSeconds (n : Int) : Duration := ⟨n * 1000000⟩

/-- The whole days of a duration. -/
def days (d : Duration) : Int := d.microseconds / 86400000000

/-- The whole seconds of a duration besides its days. -/
def secondPart (d : Duration) : Nat := (d.microseconds % 86400000000 / 1000000).toNat

/-- The microseconds of a duration besides its days and seconds. -/
def microPart (d : Duration) : Nat := (d.microseconds % 1000000).toNat

/-- A duration in seconds. -/
def seconds (d : Duration) : Float :=
  Number.decimal (d.microseconds < 0) d.microseconds.natAbs (-6)

/-- The smallest difference between two durations. -/
def resolution : Duration := ⟨1⟩

/-- A duration of one day. -/
def day : Duration := ofSeconds 86400

/-- The shortest duration. -/
def shortest : Duration := ⟨-999999999 * 86400000000⟩

/-- The longest duration. -/
def longest : Duration := ⟨1000000000 * 86400000000 - 1⟩

/-- A duration in output, as `1 day, 2:03:04.000005`. -/
def text (d : Duration) : String :=
  let s := d.secondPart
  (if d.days == 0 then ""
    else toString d.days ++ (if d.days.natAbs == 1 then " day, " else " days, "))
    ++ toString (s / 3600) ++ ":" ++ zeroPadded 2 (s / 60 % 60) ++ ":" ++ zeroPadded 2 (s % 60)
    ++ if d.microPart == 0 then "" else "." ++ zeroPadded 6 d.microPart

/-- A duration inside the text of a list or mapping. -/
def shown (d : Duration) : String :=
  let field (name : String) (n : Int) : List String :=
    if n == 0 then [] else [name ++ "=" ++ toString n]
  let fields := field "days" d.days ++ field "seconds" d.secondPart
    ++ field "microseconds" d.microPart
  "datetime.timedelta(" ++ (if fields.isEmpty then "0" else ", ".intercalate fields) ++ ")"

end Duration

/-- An offset as `+01:30`. -/
def offsetText (seconds : Int) : String :=
  let n := seconds.natAbs
  (if seconds < 0 then "-" else "+") ++ zeroPadded 2 (n / 3600) ++ ":" ++ zeroPadded 2 (n / 60 % 60)
    ++ if n % 60 == 0 then "" else ":" ++ zeroPadded 2 (n % 60)

/-- The name of the time zone of an offset. -/
def zoneName (seconds : Int) : String :=
  if seconds == 0 then "UTC" else "UTC" ++ offsetText seconds

/-- The time zone of an offset inside the text of a list or mapping. -/
def zoneShown (seconds : Int) : String :=
  if seconds == 0 then "datetime.timezone.utc"
  else "datetime.timezone(" ++ (Duration.ofSeconds seconds).shown ++ ")"

/-- The largest offset of a time zone; its opposite is the smallest. -/
def largestOffset : Int := 86340

end AttrTemplates
