/-!
# Calendar — an instant as a date and a time of day

Instants count milliseconds from the start of 1970 in UTC.  The calendar is the Gregorian one in
both directions.  Years have up to six digits; an instant of no such year is written as its count of
milliseconds.
-/

namespace KeysetStore.Calendar

/-- A day of the Gregorian calendar. -/
structure Date where
  year : Int
  month : Nat
  day : Nat
deriving DecidableEq

/-- **The date of a day counted from the start of 1970.**  Years begin in March here, so the leap
day is the last of its year, and 400 years are always 146097 days. -/
def Date.ofDays (days : Int) : Date :=
  let shifted := days + 719468
  let cycle := shifted / 146097
  let day := (shifted % 146097).toNat
  let year := (day - day / 1460 + day / 36524 - day / 146096) / 365
  let dayOfYear := day - (365 * year + year / 4 - year / 100)
  let march := (5 * dayOfYear + 2) / 153
  { year := year + cycle * 400 + if march < 10 then 0 else 1
    month := if march < 10 then march + 3 else march - 9
    day := dayOfYear - (153 * march + 2) / 5 + 1 }

/-- A number, filled up with zeros to a width. -/
def padded (width n : Nat) : String :=
  let digits := toString n
  String.ofList (List.replicate (width - digits.length) '0') ++ digits

/-- The sign of a year: a minus below zero, a plus where the year needs more than four digits. -/
def yearSign (year : Int) : String := if year < 0 then "-" else if 9999 < year then "+" else ""

/-- A date: the sign of its year, and four digits of it at least. -/
def Date.text (d : Date) : String :=
  yearSign d.year ++ padded 4 d.year.natAbs ++ "-" ++ padded 2 d.month ++ "-" ++ padded 2 d.day

/-- Thousandths of a second: no trailing zero, and one digit at least. -/
def fraction (millis : Nat) : String :=
  if millis % 100 = 0 then padded 1 (millis / 100)
  else if millis % 10 = 0 then padded 2 (millis / 10)
  else padded 3 millis

/-- The first and the last instant with a date in the text: the years from -999999 to 999999. -/
def datedMillis : Int × Int := (-31619087596800000, 31494784780799999)

/-- **The text of an instant**: date, time of day and the offset of UTC. -/
def text (millis : Int) : String :=
  if millis < datedMillis.1 ∨ datedMillis.2 < millis then toString millis
  else
    let seconds := millis / 1000
    let ofDay := (seconds % 86400).toNat
    (Date.ofDays (seconds / 86400)).text ++ " " ++ toString (ofDay / 3600) ++ ":"
      ++ padded 2 (ofDay / 60 % 60) ++ ":" ++ padded 2 (ofDay % 60) ++ "."
      ++ fraction (millis % 1000).toNat ++ " +00:00:00"

end KeysetStore.Calendar
