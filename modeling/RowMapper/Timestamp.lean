import RowMapper.Number.Decimal

/-!
# Calendar timestamps

A timestamp is a date of the proleptic Gregorian calendar with a time of day to the microsecond,
and perhaps an offset from universal time in minutes. Timestamps without an offset are ordered by
their fields, timestamps with one by the instant they name; the two sorts are never equal and are
not ordered against each other.
-/

namespace RowMapper

/-- A date and time of day, `offset` minutes ahead of universal time when that is known. -/
structure Timestamp where
  year : Nat
  month : Nat
  day : Nat
  hour : Nat
  minute : Nat
  second : Nat
  microsecond : Nat
  offset : Option Int
  deriving DecidableEq

namespace Timestamp

/-- The part of a timestamp that is out of range. Fields are machine integers first of all, of 64
bits and then of 32, and a span of time has a greatest count of days. -/
inductive Fault where
  | beyondLong
  | aboveInteger
  | belowInteger
  | beyondDays
  | spanDays (days : Int)
  | year (value : Int)
  | month
  | day
  | hour
  | minute
  | second
  | microsecond
  | offset (minutes : Int)

/-- Leap years: those divisible by four, a century only when divisible by four hundred. -/
def isLeap (year : Nat) : Bool :=
  year % 4 == 0 && (year % 100 != 0 || year % 400 == 0)

/-- The length of a month. -/
def daysInMonth (year month : Nat) : Nat :=
  if month = 2 then (if isLeap year then 29 else 28)
  else if month = 4 || month = 6 || month = 9 || month = 11 then 30
  else 31

/-- The days of a year before a month begins. -/
def daysBeforeMonth (year : Nat) : Nat → Nat
  | 0 => 0
  | month + 1 => if month = 0 then 0 else daysBeforeMonth year month + daysInMonth year month

/-- The days from the start of year one to a date. -/
def ordinal (t : Timestamp) : Nat :=
  let before := t.year - 1
  before * 365 + before / 4 - before / 100 + before / 400 +
    daysBeforeMonth t.year t.month + t.day

/-- Microseconds from the start of year one, as the fields say. -/
def localMicroseconds (t : Timestamp) : Int :=
  (((t.ordinal * 24 + t.hour) * 60 + t.minute) * 60 + t.second) * 1000000 + t.microsecond

/-- Microseconds from the start of year one to the instant that a timestamp names. -/
def instant (t : Timestamp) : Int :=
  t.localMicroseconds - t.offset.getD 0 * 60000000

/-- The order of two timestamps; one with an offset and one without have none. -/
def compare? (a b : Timestamp) : Option Ordering :=
  if a.offset.isSome = b.offset.isSome then some (compare a.instant b.instant) else none

/-- Equality of timestamps. -/
def equal (a b : Timestamp) : Bool :=
  a.compare? b = some .eq

/-- Whether an integer fits into a machine word of a given width, which has a sign. -/
def fitsWord (width : Nat) (n : Int) : Bool :=
  -Int.pow 2 (width - 1) ≤ n && n < Int.pow 2 (width - 1)

/-- Refuse a field that is no machine integer. -/
def checkField (n : Int) : Except Fault Unit :=
  if !fitsWord 64 n then .error .beyondLong
  else if fitsWord 32 n then .ok ()
  else if n < 0 then .error .belowInteger
  else .error .aboveInteger

/-- Refuse the first field that is no machine integer. -/
def checkFields : List Int → Except Fault Unit
  | [] => .ok ()
  | n :: rest => do
      checkField n
      checkFields rest

/-- The greatest count of days in a span of time. -/
def maxSpanDays : Int := 999999999

/-- Refuse an offset that is not less than a day. -/
def checkOffset (minutes : Int) : Except Fault Unit :=
  let days := Int.fdiv minutes 1440
  if !fitsWord 32 days then .error .beyondDays
  else if days < -maxSpanDays || maxSpanDays < days then .error (.spanDays days)
  else if minutes ≤ -1440 || 1440 ≤ minutes then .error (.offset minutes)
  else .ok ()

/-- A timestamp from its fields in order of size; the first field out of range is reported. -/
def ofFields (year month day hour minute second microsecond : Int) (offset : Option Int) :
    Except Fault Timestamp := do
  if let some minutes := offset then checkOffset minutes
  checkFields [year, month, day, hour, minute, second, microsecond]
  if year < 1 || 9999 < year then throw (.year year)
  if month < 1 || 12 < month then throw .month
  if day < 1 || daysInMonth year.toNat month.toNat < day then throw .day
  if hour < 0 || 23 < hour then throw .hour
  if minute < 0 || 59 < minute then throw .minute
  if second < 0 || 59 < second then throw .second
  if microsecond < 0 || 999999 < microsecond then throw .microsecond
  return ⟨year.toNat, month.toNat, day.toNat, hour.toNat, minute.toNat, second.toNat,
    microsecond.toNat, offset⟩

/-- A natural with zeros in front up to a width. -/
def padded (width n : Nat) : String :=
  let digits := (Nat.repr n).toList
  .ofList (Decimal.zeros (width - digits.length) ++ digits)

/-- The date and time to the second, the year without leading zeros: the form of column
defaults. -/
def literalText (t : Timestamp) : String :=
  Nat.repr t.year ++ "-" ++ padded 2 t.month ++ "-" ++ padded 2 t.day ++ " " ++
    padded 2 t.hour ++ ":" ++ padded 2 t.minute ++ ":" ++ padded 2 t.second

/-- A span of minutes in days and seconds, the seconds never negative, as a constructor call. -/
def spanText (minutes : Int) : String :=
  let days := Int.fdiv minutes 1440
  let seconds := Int.fmod minutes 1440 * 60
  let parts :=
    (if days = 0 then [] else ["days=" ++ decimalText days]) ++
      (if seconds = 0 then [] else ["seconds=" ++ decimalText seconds])
  "datetime.timedelta(" ++ (if parts.isEmpty then "0" else String.intercalate ", " parts) ++ ")"

/-- The timestamp as a constructor call. Seconds and microseconds appear when they or smaller
parts are not zero, the offset when there is one. -/
def text (t : Timestamp) : String :=
  let small :=
    if t.microsecond ≠ 0 then [t.second, t.microsecond]
    else if t.second ≠ 0 then [t.second] else []
  let fields := [t.year, t.month, t.day, t.hour, t.minute] ++ small
  let zone := match t.offset with
    | none => ""
    | some minutes =>
        ", tzinfo=" ++
          (if minutes = 0 then "datetime.timezone.utc"
           else "datetime.timezone(" ++ spanText minutes ++ ")")
  "datetime.datetime(" ++ String.intercalate ", " (fields.map Nat.repr) ++ zone ++ ")"

/-- The timestamp in the usual notation of dates. -/
def display (t : Timestamp) : String :=
  let zone := match t.offset with
    | none => ""
    | some minutes =>
        (if minutes < 0 then "-" else "+") ++
          padded 2 (minutes.natAbs / 60) ++ ":" ++ padded 2 (minutes.natAbs % 60)
  padded 4 t.year ++ "-" ++ padded 2 t.month ++ "-" ++ padded 2 t.day ++ " " ++
    padded 2 t.hour ++ ":" ++ padded 2 t.minute ++ ":" ++ padded 2 t.second ++
    (if t.microsecond = 0 then "" else "." ++ padded 6 t.microsecond) ++ zone

namespace Fault

/-- Whether a number was too great to be looked at, rather than out of range. -/
def isOverflow : Fault → Bool
  | .beyondLong | .aboveInteger | .belowInteger | .beyondDays | .spanDays _ => true
  | _ => false

/-- The wording of a refused timestamp. -/
def message : Fault → String
  | .beyondLong => "Python int too large to convert to C long"
  | .aboveInteger => "signed integer is greater than maximum"
  | .belowInteger => "signed integer is less than minimum"
  | .beyondDays => "Python int too large to convert to C int"
  | .spanDays days =>
      "days=" ++ decimalText days ++ "; must have magnitude <= " ++ decimalText maxSpanDays
  | .year value => "year " ++ decimalText value ++ " is out of range"
  | .month => "month must be in 1..12"
  | .day => "day is out of range for month"
  | .hour => "hour must be in 0..23"
  | .minute => "minute must be in 0..59"
  | .second => "second must be in 0..59"
  | .microsecond => "microsecond must be in 0..999999"
  | .offset minutes =>
      "offset must be a timedelta strictly between -timedelta(hours=24) and " ++
        "timedelta(hours=24), not " ++ spanText minutes ++ "."

end Fault

end Timestamp

end RowMapper
