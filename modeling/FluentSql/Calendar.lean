import FluentSql.Number.Numeral

/-!
# Dates, times and durations

Calendar data and their texts. The ISO 8601 text of a time has a fraction only if it is not zero,
always of six digits, and an offset from UTC only if the time has one; `DateTime.isoText` takes the
character that stands between the date and the time. `call` texts show how a value is built, and
are what error messages quote.

Two times with an offset are the same if they denote the same instant (`instant`), whatever their
offsets; a time with an offset and one without are never the same.
-/

namespace FluentSql.Calendar

open FluentSql.Number

/-- A number with at least `width` digits. -/
def padded (width n : Nat) : String :=
  let digits := Nat.toDigits 10 n
  String.ofList (List.replicate (width - digits.length) '0' ++ digits)

/-- A day of the proleptic Gregorian calendar. -/
structure Date where
  year : Nat
  month : Nat
  day : Nat
deriving Repr, DecidableEq, Inhabited

/-- A time of day, with an offset from UTC in seconds or without. -/
structure TimeOfDay where
  hour : Nat
  minute : Nat
  second : Nat
  microsecond : Nat
  offset : Option Int := none
deriving Repr, DecidableEq, Inhabited

/-- A day and a time. -/
structure DateTime where
  date : Date
  time : TimeOfDay
deriving Repr, DecidableEq, Inhabited

/-- A span of time: whole days, which may be negative, and a rest below one day. -/
structure Duration where
  days : Int
  seconds : Nat
  microseconds : Nat
deriving Repr, DecidableEq, Inhabited

/-! ### Texts -/

/-- The ISO text of a day. -/
def Date.isoText (d : Date) : String :=
  padded 4 d.year ++ "-" ++ padded 2 d.month ++ "-" ++ padded 2 d.day

/-- The text of an offset: sign, hours and minutes, and seconds unless they are zero. -/
def offsetText (offset : Int) : String :=
  let n := offset.natAbs
  (if offset < 0 then "-" else "+") ++ padded 2 (n / 3600) ++ ":" ++ padded 2 (n / 60 % 60) ++
    (if n % 60 == 0 then "" else ":" ++ padded 2 (n % 60))

/-- The ISO text of a time. -/
def TimeOfDay.isoText (t : TimeOfDay) : String :=
  padded 2 t.hour ++ ":" ++ padded 2 t.minute ++ ":" ++ padded 2 t.second ++
    (if t.microsecond == 0 then "" else "." ++ padded 6 t.microsecond) ++
    (t.offset.map offsetText).getD ""

/-- The ISO text of a day and a time, with a separator of choice. -/
def DateTime.isoText (separator : String) (t : DateTime) : String :=
  t.date.isoText ++ separator ++ t.time.isoText

/-- The text of a span: its days, if there are any, and the rest as a clock shows it. -/
def Duration.text (d : Duration) : String :=
  (if d.days == 0 then ""
    else writeInteger d.days ++ (if d.days.natAbs == 1 then " day, " else " days, ")) ++
    (d.seconds / 3600).repr ++ ":" ++ padded 2 (d.seconds / 60 % 60) ++ ":" ++
    padded 2 (d.seconds % 60) ++
    (if d.microseconds == 0 then "" else "." ++ padded 6 d.microseconds)

/-! ### Texts that show how a value is built -/

/-- A name applied to arguments. -/
def callText (name : String) (args : List String) : String :=
  name ++ "(" ++ ", ".intercalate args ++ ")"

/-- A span by its parts that are not zero. -/
def Duration.call (d : Duration) : String :=
  let parts :=
    (if d.days == 0 then [] else ["days=" ++ writeInteger d.days]) ++
      (if d.seconds == 0 then [] else ["seconds=" ++ d.seconds.repr]) ++
      (if d.microseconds == 0 then [] else ["microseconds=" ++ d.microseconds.repr])
  callText "datetime.timedelta" (if parts.isEmpty then ["0"] else parts)

/-- An offset as a number of seconds, as a span: the days take the sign. -/
def offsetSpan (offset : Int) : Duration :=
  { days := offset.fdiv 86400, seconds := (offset.fmod 86400).toNat, microseconds := 0 }

/-- The time zone of an offset. -/
def zoneCall (offset : Int) : String :=
  if offset == 0 then "datetime.timezone.utc"
  else callText "datetime.timezone" [(offsetSpan offset).call]

/-- The arguments that show a time: seconds only if they or the microseconds are not zero. -/
def TimeOfDay.arguments (t : TimeOfDay) : List String :=
  [t.hour.repr, t.minute.repr] ++
    (if t.second == 0 && t.microsecond == 0 then [] else [t.second.repr]) ++
    (if t.microsecond == 0 then [] else [t.microsecond.repr]) ++
    (t.offset.map fun o ↦ ["tzinfo=" ++ zoneCall o]).getD []

/-- The arguments that show a day. -/
def Date.arguments (d : Date) : List String :=
  [d.year.repr, d.month.repr, d.day.repr]

/-- A day by its parts. -/
def Date.call (d : Date) : String :=
  callText "datetime.date" d.arguments

/-- A time by its parts. -/
def TimeOfDay.call (t : TimeOfDay) : String :=
  callText "datetime.time" t.arguments

/-- A day and a time by their parts. -/
def DateTime.call (t : DateTime) : String :=
  callText "datetime.datetime" (t.date.arguments ++ t.time.arguments)

/-! ### Instants -/

/-- The span of a sum of days, seconds and microseconds of any sign. -/
def Duration.ofParts (days seconds microseconds : Int) : Duration :=
  let carried := seconds + microseconds.fdiv 1000000
  { days := days + carried.fdiv 86400
    seconds := (carried.fmod 86400).toNat
    microseconds := (microseconds.fmod 1000000).toNat }

/-- The year has a leap day. -/
def isLeapYear (year : Nat) : Bool :=
  year % 4 == 0 && (year % 100 != 0 || year % 400 == 0)

/-- The length of a month. -/
def monthLength (year month : Nat) : Nat :=
  if month == 2 then (if isLeapYear year then 29 else 28)
  else if month == 4 || month == 6 || month == 9 || month == 11 then 30
  else 31

/-- The number of a day, counted from the first day of the first year. -/
def Date.ordinal (d : Date) : Nat :=
  let y := d.year - 1
  y * 365 + y / 4 - y / 100 + y / 400 +
    ((List.range (d.month - 1)).map fun m ↦ monthLength d.year (m + 1)).foldl (· + ·) 0 + d.day

/-- Microseconds from midnight, in UTC if the time has an offset. -/
def TimeOfDay.instant (t : TimeOfDay) : Int :=
  ((((t.hour * 60 + t.minute) * 60 + t.second : Nat) : Int) - t.offset.getD 0) * 1000000 +
    t.microsecond

/-- Microseconds from the first day of the first year, in UTC if there is an offset. -/
def DateTime.instant (t : DateTime) : Int :=
  t.date.ordinal * 86400000000 + t.time.instant

/-- Two times are the same. -/
def TimeOfDay.same (s t : TimeOfDay) : Bool :=
  s.offset.isSome == t.offset.isSome && s.instant == t.instant

/-- Two days with times are the same. -/
def DateTime.same (s t : DateTime) : Bool :=
  s.time.offset.isSome == t.time.offset.isSome && s.instant == t.instant

end FluentSql.Calendar
