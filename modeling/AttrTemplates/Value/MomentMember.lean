import AttrTemplates.Value.NodeMember

/-!
# `AttrTemplates.Value.MomentMember`: what dates and times offer

A date tells its year, month and day, its place in the week and in the count of days; a time of
day its hour, minute, second and microsecond, and the zone it has an offset for. Both offer
operations that cannot do without arguments: these fail when a path meets them, where other
operations of that sort lead nowhere.

A time without offset is taken to be universal time. Templates are filled without a clock, so
what asks for the present gets the beginning of the year 1970.
-/

set_option autoImplicit false

namespace AttrTemplates

namespace Value

/-- An operation that fails for want of arguments, in these words. -/
def failing (name reason : String) : Value := .operation name [] (.error (.raised .typeError reason))

/-- An operation that fails for want of its first argument. -/
def wanting (name argument : String) : Value :=
  failing name (name ++ "() missing required argument '" ++ argument ++ "' (pos 1)")

/-- An operation that fails because it takes one argument, in numbers or in words. -/
def wantingOne (name count : String) (owner : String := "") : Value :=
  failing name (owner ++ name ++ "() takes exactly " ++ count ++ " (0 given)")

end Value

/-! ### Stretches and zones -/

/-- The members of a duration. -/
def Duration.member? (d : Duration) : String → Option Value
  | "days" => some (.int d.days)
  | "seconds" => some (.int d.secondPart)
  | "microseconds" => some (.int d.microPart)
  | "total_seconds" => some (.giving "total_seconds" (.float d.seconds))
  | "resolution" => some (.duration .resolution)
  | "min" => some (.duration .shortest)
  | "max" => some (.duration .longest)
  | _ => none

/-- The members of a time zone, which are about no time in particular. -/
def zoneMember? (name : String) : Option Value :=
  match name with
  | "utc" => some (.zone 0)
  | "min" => some (.zone (-largestOffset))
  | "max" => some (.zone largestOffset)
  | "dst" | "fromutc" | "tzname" | "utcoffset" =>
    some (.wantingOne name "one argument" "timezone.")
  | _ => none

/-! ### Dates -/

/-- The numbers of a date and time for the calendar of a computer. The last tells whether the
time is known to be no summer time. -/
def calendarNumbers (d : Date) (t : TimeOfDay) (summerTime : Int) : Value :=
  .parts "time.struct_time" [("tm_year", .int d.year), ("tm_mon", .int d.month),
    ("tm_mday", .int d.day), ("tm_hour", .int t.hour), ("tm_min", .int t.minute),
    ("tm_sec", .int t.second), ("tm_wday", .int d.weekday), ("tm_yday", .int d.dayOfYear),
    ("tm_isdst", .int summerTime)]

/-- The day that is taken for the present. -/
def presentDay : Date := ⟨1970, 1, 1⟩

/-- The members that dates have with and without a time. -/
def Date.member? (d : Date) (name : String) : Option Value :=
  match name with
  | "year" => some (.int d.year)
  | "month" => some (.int d.month)
  | "day" => some (.int d.day)
  | "weekday" => some (.giving name (.int d.weekday))
  | "isoweekday" => some (.giving name (.int (d.weekday + 1 : Int)))
  | "toordinal" => some (.giving name (.int d.dayNumber))
  | "isocalendar" =>
    let (year, week) := d.week
    some (.giving name (.parts "datetime.IsoCalendarDate"
      [("year", .int year), ("week", .int week), ("weekday", .int (d.weekday + 1 : Int))]))
  | "fromisocalendar" => some (.wanting name "year")
  | "fromordinal" => some (.wantingOne name "1 argument")
  | _ => none

/-- The members of a date without a time. -/
def Date.ownMember? (d : Date) (name : String) : Option Value :=
  match name with
  | "ctime" => some (.giving name (.str (d.spelled TimeOfDay.first.clockText)))
  | "timetuple" => some (.giving name (calendarNumbers d .first (-1)))
  | "today" => some (.giving name (.moment (.date presentDay)))
  | "fromtimestamp" => some (.operation name [.required] (.ok .undefined))
  | "min" => some (.moment (.date .first))
  | "max" => some (.moment (.date .last))
  | "resolution" => some (.duration .day)
  | _ => d.member? name

/-! ### Times -/

/-- The members that times of day have with and without a date. -/
def TimeOfDay.member? (t : TimeOfDay) (offset : Option Int) (name : String) : Option Value :=
  let ofOffset (f : Int → Value) : Value := match offset with
    | some o => f o
    | none => .undefined
  match name with
  | "hour" => some (.int t.hour)
  | "minute" => some (.int t.minute)
  | "second" => some (.int t.second)
  | "microsecond" => some (.int t.microsecond)
  | "fold" => some (.int 0)
  | "resolution" => some (.duration .resolution)
  | "tzinfo" => some (ofOffset .zone)
  | "tzname" => some (.giving name (ofOffset fun o => .str (zoneName o)))
  | "utcoffset" => some (.giving name (ofOffset fun o => .duration (.ofSeconds o)))
  | "dst" => some (.giving name .undefined)
  | _ => none

/-- The members of a time of day without a date. -/
def TimeOfDay.ownMember? (t : TimeOfDay) (offset : Option Int) : String → Option Value
  | "min" => some (.moment (.time .first none))
  | "max" => some (.moment (.time .last none))
  | name => t.member? offset name

/-- The seconds from the beginning of 1970 to a date and time. Without an offset the day before
has to be on the calendar too, because a change of the clocks may lie between. -/
def timestamp (d : Date) (t : TimeOfDay) : Option Int → Except Failure Float
  | some o =>
    .ok (Duration.mk (Moment.sinceEpoch d t o * 1000000 + t.microsecond)).seconds
  | none =>
    if d == .first then .error (.raised .valueError "year 0 is out of range")
    else .ok (Float.ofInt (Moment.sinceEpoch d t 0) + Float.ofNat t.microsecond / 1000000.0)

/-- A date and time in universal time, as something of both makes of them. -/
def inUniversalTime (d : Date) (t : TimeOfDay) (offset : Int) (f : Date → TimeOfDay → Value) :
    Except Failure Value :=
  match Moment.universal? d t offset with
  | some (d, t) => .ok (f d t)
  | none => .error (.raised .overflowError "date value out of range")

/-- The members of a date with a time. -/
def dateTimeMember? (d : Date) (t : TimeOfDay) (offset : Option Int) (name : String) :
    Option Value :=
  let present : Value := .moment (.dateTime presentDay .first none)
  match name with
  | "date" => some (.giving name (.moment (.date d)))
  | "time" => some (.giving name (.moment (.time t none)))
  | "timetz" => some (.giving name (.moment (.time t offset)))
  | "ctime" => some (.giving name (.str (d.spelled t.clockText)))
  | "timetuple" => some (.giving name (calendarNumbers d t (-1)))
  | "utctimetuple" =>
    some (.operation name [] (inUniversalTime d t (offset.getD 0) (calendarNumbers · · 0)))
  | "timestamp" => some (.operation name [] ((timestamp d t offset).map .float))
  | "astimezone" => some (.operation name [] (do
    let _ ← timestamp d t offset
    inUniversalTime d t (offset.getD 0) fun d t => .moment (.dateTime d t (some 0))))
  | "min" => some (.moment (.dateTime .first .first none))
  | "max" => some (.moment (.dateTime .last .last none))
  | "today" | "utcnow" => some (.giving name present)
  | "now" => some (.givingAlso name present)
  | "combine" => some (.wanting name "date")
  | "fromtimestamp" => some (.wanting name "timestamp")
  | "utcfromtimestamp" => some (.wantingOne name "1 argument")
  | "strptime" => some (.wantingOne name "2 arguments")
  | _ => d.member? name <|> t.member? offset name

/-- The members of a moment. -/
def Moment.member? (m : Moment) (name : String) : Option Value :=
  match name with
  | "isoformat" => some (.giving name (.str m.exchangeText))
  | "replace" => some (.giving name (.moment m))
  | "strftime" => some (.wanting name "format")
  | "fromisoformat" => some (.wantingOne name "one argument" (m.typeName ++ "."))
  | _ => match m with
    | .date d => d.ownMember? name
    | .time t offset => t.ownMember? offset name
    | .dateTime d t offset => dateTimeMember? d t offset name

end AttrTemplates
