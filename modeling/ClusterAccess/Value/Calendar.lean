/-!
# Dates and times

Proleptic Gregorian dates of the years 1 to 9999, and date-times with an optional offset from UTC.
The first part that is out of range decides why a date-time is refused, an offset before the rest.
-/
namespace ClusterAccess.Calendar

structure Date where
  year : Nat
  month : Nat
  day : Nat
  deriving DecidableEq, Repr

/-- A date with a time of day. The offset is in minutes east of UTC. -/
structure DateTime where
  date : Date
  hour : Nat
  minute : Nat
  second : Nat
  microsecond : Nat
  offset : Option Int
  deriving DecidableEq, Repr

/-- Why numbers are no date or time. An offset is given in minutes. -/
inductive Fault where
  | year (n : Nat)
  | month
  | day
  | hour
  | minute
  | second
  | offset (minutes : Int)
  deriving DecidableEq, Repr

/-- An offset in whole days and the seconds left over, which are never negative. -/
def Fault.duration (minutes : Int) : String :=
  let seconds := minutes * 60 % 86400
  let rest := if seconds = 0 then "" else s!", seconds={seconds}"
  s!"datetime.timedelta(days={minutes * 60 / 86400}{rest})"

def Fault.message : Fault → String
  | .year n => s!"year {n} is out of range"
  | .month => "month must be in 1..12"
  | .day => "day is out of range for month"
  | .hour => "hour must be in 0..23"
  | .minute => "minute must be in 0..59"
  | .second => "second must be in 0..59"
  | .offset minutes =>
    "offset must be a timedelta strictly between -timedelta(hours=24) and timedelta(hours=24), not " ++
      Fault.duration minutes ++ "."

def isLeap (year : Nat) : Bool := year % 4 == 0 && (year % 100 != 0 || year % 400 == 0)

def daysInMonth (year month : Nat) : Nat :=
  if month = 2 then (if isLeap year then 29 else 28)
  else if month ∈ [4, 6, 9, 11] then 30 else 31

def Date.check (d : Date) : Except Fault Date :=
  if d.year < 1 ∨ 9999 < d.year then .error (.year d.year)
  else if d.month < 1 ∨ 12 < d.month then .error .month
  else if d.day < 1 ∨ daysInMonth d.year d.month < d.day then .error .day
  else .ok d

def DateTime.check (t : DateTime) : Except Fault DateTime :=
  match t.offset with
  | some o => if o ≤ -1440 ∨ 1440 ≤ o then .error (.offset o) else checkTime
  | none => checkTime
where
  checkTime : Except Fault DateTime :=
    match t.date.check with
    | .error e => .error e
    | .ok _ =>
      if 23 < t.hour then .error .hour
      else if 59 < t.minute then .error .minute
      else if 59 < t.second then .error .second
      else .ok t

/-- Decimal digits, filled up with zeros to a width. -/
def padded (width n : Nat) : String :=
  let ds := toString n
  String.ofList (List.replicate (width - ds.length) '0') ++ ds

def Date.iso (d : Date) : String := s!"{padded 4 d.year}-{padded 2 d.month}-{padded 2 d.day}"

def offsetText (minutes : Int) : String :=
  let n := minutes.natAbs
  let sign := if minutes < 0 then "-" else "+"
  s!"{sign}{padded 2 (n / 60)}:{padded 2 (n % 60)}"

/-- The date and time in the extended format of ISO 8601; `zone` writes the offset. -/
def DateTime.format (t : DateTime) (separator : String) (zone : Int → String) : String :=
  let fraction := if t.microsecond = 0 then "" else "." ++ padded 6 t.microsecond
  let offset := (t.offset.map zone).getD ""
  s!"{t.date.iso}{separator}{padded 2 t.hour}:{padded 2 t.minute}:{padded 2 t.second}{fraction}{offset}"

def DateTime.iso (t : DateTime) : String := t.format "T" offsetText

/-- The form in which UTC is written `Z`. -/
def DateTime.isoZulu (t : DateTime) : String :=
  t.format "T" fun minutes => if minutes = 0 then "Z" else offsetText minutes

/-- Days before the first of January of a year, counted from year 1. -/
def daysBeforeYear (year : Nat) : Nat :=
  let y := year - 1
  y * 365 + y / 4 - y / 100 + y / 400

def Date.ordinal (d : Date) : Nat :=
  let daysBeforeMonth := (List.range (d.month - 1)).foldl (fun days m => days + daysInMonth d.year (m + 1)) 0
  daysBeforeYear d.year + daysBeforeMonth + d.day

/-- Microseconds on the UTC scale, for a time whose offset is known. -/
def DateTime.instant (t : DateTime) (offset : Int) : Int :=
  ((t.date.ordinal * 1440 + t.hour * 60 + t.minute - offset) * 60 + t.second) * 1000000 + t.microsecond

/-- Two date-times are the same when both lack an offset and agree, or both name one instant. -/
def DateTime.same (s t : DateTime) : Bool :=
  match s.offset, t.offset with
  | none, none => s == t
  | some a, some b => s.instant a == t.instant b
  | _, _ => false

end ClusterAccess.Calendar
