import PointerTrace.Decimal.Integer

/- Calendar days and moments as documents hold them, with the two ways messages write them: plain,
   and as the call that makes them. -/
namespace PointerTrace.Document

/-- Whether a year has 366 days. -/
def isLeap (year : Nat) : Bool := year % 4 = 0 && (year % 100 ≠ 0 || year % 400 = 0)

/-- The number of days of a month. -/
def daysIn (year month : Nat) : Nat :=
  if month = 2 then (if isLeap year then 29 else 28)
  else if month = 4 || month = 6 || month = 9 || month = 11 then 30 else 31

/-- A day of the calendar. -/
structure Date where
  year : Nat
  month : Nat
  day : Nat
  deriving DecidableEq, Repr

/-- A day and a time of day, with the distance from universal time in minutes when it is known. -/
structure Moment where
  date : Date
  hour : Nat
  minute : Nat
  second : Nat
  microsecond : Nat
  offset : Option Int
  deriving DecidableEq, Repr

/-- Why numbers make no day or moment. -/
inductive CalendarFault where
  | year (given : Nat)
  | month
  | day
  | hour
  | minute
  | second
  | offset (minutes : Int)
  deriving DecidableEq, Repr

/-- A span of minutes as a call: days, and the seconds of the last day. -/
def spanCall (minutes : Int) : String :=
  let days := minutes.fdiv 1440
  let seconds := minutes.fmod 1440 * 60
  let parts := (if days = 0 then [] else ["days=" ++ Decimal.ofInt days]) ++
    (if seconds = 0 then [] else ["seconds=" ++ Decimal.ofInt seconds])
  "datetime.timedelta(" ++ (if parts = [] then "0" else ", ".intercalate parts) ++ ")"

/-- The wording of a calendar fault. -/
def CalendarFault.message : CalendarFault → String
  | .year y => "year " ++ Decimal.ofNat y ++ " is out of range"
  | .month => "month must be in 1..12"
  | .day => "day is out of range for month"
  | .hour => "hour must be in 0..23"
  | .minute => "minute must be in 0..59"
  | .second => "second must be in 0..59"
  | .offset m => "offset must be a timedelta strictly between -timedelta(hours=24) and " ++
      "timedelta(hours=24), not " ++ spanCall m ++ "."

/-- The day that three numbers name. -/
def Date.make (year month day : Nat) : Except CalendarFault Date :=
  if year = 0 || 9999 < year then .error (.year year)
  else if month = 0 || 12 < month then .error .month
  else if day = 0 || daysIn year month < day then .error .day
  else .ok ⟨year, month, day⟩

/-- The moment that numbers name. The offset is judged first, then the day, then the time. -/
def Moment.make (year month day hour minute second microsecond : Nat) (offset : Option Int) :
    Except CalendarFault Moment := do
  if let some m := offset then
    if m ≤ -1440 || 1440 ≤ m then throw (.offset m)
  let date ← Date.make year month day
  if 23 < hour then throw .hour
  if 59 < minute then throw .minute
  if 59 < second then throw .second
  return ⟨date, hour, minute, second, microsecond, offset⟩

/-- A number with leading zeros up to a width. -/
def padded (width n : Nat) : String :=
  let ds := Decimal.digits n
  String.ofList (List.replicate (width - ds.length) '0' ++ ds)

/-- A day as year, month and day. -/
def Date.text (d : Date) : String :=
  padded 4 d.year ++ "-" ++ padded 2 d.month ++ "-" ++ padded 2 d.day

/-- A day as the call that makes it. -/
def Date.call (d : Date) : String :=
  "datetime.date(" ++ ", ".intercalate ([d.year, d.month, d.day].map Decimal.ofNat) ++ ")"

/-- An offset as sign, hours and minutes. -/
def offsetText (minutes : Int) : String :=
  (if minutes < 0 then "-" else "+") ++ padded 2 (minutes.natAbs / 60) ++ ":" ++
    padded 2 (minutes.natAbs % 60)

/-- A moment as day and time, with the microseconds and the offset when there are any. -/
def Moment.text (m : Moment) : String :=
  m.date.text ++ " " ++ padded 2 m.hour ++ ":" ++ padded 2 m.minute ++ ":" ++ padded 2 m.second ++
    (if m.microsecond = 0 then "" else "." ++ padded 6 m.microsecond) ++
    (m.offset.map offsetText).getD ""

/-- A moment as the call that makes it; seconds and microseconds are left out when zero. -/
def Moment.call (m : Moment) : String :=
  let time := if m.microsecond ≠ 0 then [m.hour, m.minute, m.second, m.microsecond]
    else if m.second ≠ 0 then [m.hour, m.minute, m.second] else [m.hour, m.minute]
  let zone := match m.offset with
    | none => []
    | some 0 => ["tzinfo=datetime.timezone.utc"]
    | some z => ["tzinfo=datetime.timezone(" ++ spanCall z ++ ")"]
  "datetime.datetime(" ++ ", ".intercalate
    (([m.date.year, m.date.month, m.date.day] ++ time).map Decimal.ofNat ++ zone) ++ ")"

/-- The number of days before a day, counted from a fixed one. Years are taken to start in March, so
    that the day that only leap years have comes last. -/
def Date.number (d : Date) : Int :=
  let year : Int := if d.month ≤ 2 then d.year - 1 else d.year
  let month := (d.month + 9) % 12
  365 * year + year.fdiv 4 - year.fdiv 100 + year.fdiv 400 + (153 * month + 2) / 5 + d.day

/-- The microseconds of a moment since a fixed one, in its own time. -/
def Moment.microseconds (m : Moment) : Int :=
  (((m.date.number * 24 + m.hour) * 60 + m.minute) * 60 + m.second) * 1000000 + m.microsecond

/-- The microseconds of a moment since a fixed one, in universal time, for an offset in minutes. -/
def Moment.universal (m : Moment) (offset : Int) : Int := m.microseconds - offset * 60000000

/-- Whether two moments are the same point in time. One whose offset is not known is never the same
    as one whose offset is. -/
def Moment.sameInstant (a b : Moment) : Bool :=
  match a.offset, b.offset with
  | none, none => a.microseconds = b.microseconds
  | some x, some y => a.universal x = b.universal y
  | _, _ => false

end PointerTrace.Document
