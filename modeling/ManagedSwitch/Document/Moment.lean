import ManagedSwitch.Number.Integer

/-!
# Dates and times

A day of the proleptic Gregorian calendar in the years 1 to 9999, and a time of a day to the
microsecond, with an optional offset from universal time that is shorter than a day.  Each has a
plain text and a text that names its parts.
-/

namespace ManagedSwitch
namespace Document

section Calendar

/-- A day of the calendar. -/
structure Day where
  year : Nat
  month : Nat
  day : Nat
deriving BEq

def isLeap (year : Nat) : Bool :=
  year % 4 == 0 && (year % 100 != 0 || year % 400 == 0)

def daysIn (year month : Nat) : Nat :=
  if month = 2 then
    if isLeap year then 29 else 28
  else if month = 4 || month = 6 || month = 9 || month = 11 then
    30
  else
    31

/-- The day with the given parts, if the calendar has it. -/
def Day.of? (year month day : Nat) : Option Day :=
  if 1 ≤ year && year ≤ 9999 && 1 ≤ month && month ≤ 12 && 1 ≤ day && day ≤ daysIn year month then
    some ⟨year, month, day⟩
  else
    none

/-- Days before the first day of a year, counted from the year 1. -/
def daysBeforeYear (year : Nat) : Nat :=
  let y := year - 1
  y * 365 + y / 4 - y / 100 + y / 400

/-- The number of a day, counted from the year 1. -/
def Day.number (d : Day) : Nat :=
  (List.range (d.month - 1)).foldl (fun days m => days + daysIn d.year (m + 1))
    (daysBeforeYear d.year) + d.day

end Calendar

section Moments

/-- A day with a time; `offset` is the distance from universal time in minutes. -/
structure Moment where
  date : Day
  hour : Nat
  minute : Nat
  second : Nat
  micro : Nat
  offset : Option Int

/-- The moment with the given parts, if they are in range. -/
def Moment.of?
    (date : Day)
    (hour minute second micro : Nat)
    (offset : Option Int) :
    Option Moment :=
  let within :=
    match offset with
    | none => true
    | some m => m.natAbs < 1440
  if hour < 24 && minute < 60 && second < 60 && within then
    some ⟨date, hour, minute, second, micro, offset⟩
  else
    none

/-- Microseconds from the start of the calendar, in universal time where the offset is known. -/
def Moment.ticks (t : Moment) : Int :=
  let minutes : Int :=
    ((t.date.number * 24 + t.hour) * 60 + t.minute : Nat) - t.offset.getD 0
  (minutes * 60 + t.second) * 1000000 + t.micro

/-- Equality: both know their offset or neither does, and the times agree. -/
def Moment.same (a b : Moment) : Bool :=
  a.offset.isSome == b.offset.isSome && a.ticks == b.ticks

end Moments

section Texts

/-- The decimal digits of a number, with zeros in front up to a width. -/
def padded (width n : Nat) : String :=
  let ds := Number.digits n
  String.ofList (List.replicate (width - ds.length) '0' ++ ds)

/-- A day as year, month and day with hyphens. -/
def Day.text (d : Day) : String :=
  padded 4 d.year ++ "-" ++ padded 2 d.month ++ "-" ++ padded 2 d.day

def Day.quoted (d : Day) : String :=
  "datetime.date(" ++ Number.natText d.year ++ ", " ++ Number.natText d.month ++ ", " ++
    Number.natText d.day ++ ")"

/-- An offset as sign, hours and minutes. -/
def offsetText (minutes : Int) : String :=
  let m := minutes.natAbs
  (if minutes < 0 then "-" else "+") ++ padded 2 (m / 60) ++ ":" ++ padded 2 (m % 60)

/-- A moment as day and time, with the fraction and the offset where there is one. -/
def Moment.text (t : Moment) : String :=
  t.date.text ++ " " ++ padded 2 t.hour ++ ":" ++ padded 2 t.minute ++ ":" ++ padded 2 t.second ++
    (if t.micro = 0 then "" else "." ++ padded 6 t.micro) ++
    (match t.offset with
      | none => ""
      | some m => offsetText m)

/-- An offset as the parts that make it: whole days and seconds of a day. -/
def offsetQuoted (minutes : Int) : String :=
  if minutes = 0 then
    "datetime.timezone.utc"
  else
    let days := Int.fdiv minutes 1440
    let seconds := Int.fmod minutes 1440 * 60
    let parts :=
      (if days = 0 then [] else ["days=" ++ Number.text days]) ++
        (if seconds = 0 then [] else ["seconds=" ++ Number.text seconds])
    "datetime.timezone(datetime.timedelta(" ++ ", ".intercalate parts ++ "))"

/-- A moment as the parts that make it; zero seconds and fractions at the end are left out. -/
def Moment.quoted (t : Moment) : String :=
  let tail :=
    if t.micro != 0 then [t.second, t.micro] else if t.second != 0 then [t.second] else []
  let parts := [t.date.year, t.date.month, t.date.day, t.hour, t.minute] ++ tail
  let zone :=
    match t.offset with
    | none => ""
    | some m => ", tzinfo=" ++ offsetQuoted m
  "datetime.datetime(" ++ ", ".intercalate (parts.map Number.natText) ++ zone ++ ")"

end Texts

end Document
end ManagedSwitch
