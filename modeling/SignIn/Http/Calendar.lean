/-!
# Dates

The date and time of an instant in the form that cookies use. Dates follow the Gregorian calendar,
also before its adoption.
-/

namespace SignIn.Http.Calendar

/-- A date: year, month from 1 and day from 1. -/
structure Date where
  year : Int
  month : Nat
  day : Nat
  deriving DecidableEq, Repr

/-- The date of a day counted from the first of January 1970. Years begin in March here, so that
the leap day is the last of its year, and eras are 400 years long. -/
def Date.ofDay (day : Int) : Date :=
  let z := day + 719468
  let era := z.fdiv 146097
  let dayOfEra := (z - era * 146097).toNat
  let yearOfEra :=
    (dayOfEra - dayOfEra / 1460 + dayOfEra / 36524 - dayOfEra / 146096) / 365
  let dayOfYear := dayOfEra - (365 * yearOfEra + yearOfEra / 4 - yearOfEra / 100)
  let monthFromMarch := (5 * dayOfYear + 2) / 153
  let month := if monthFromMarch < 10 then monthFromMarch + 3 else monthFromMarch - 9
  let year : Int := yearOfEra + era * 400 + (if month ≤ 2 then 1 else 0)
  ⟨year, month, dayOfYear - (153 * monthFromMarch + 2) / 5 + 1⟩

/-- The names of the days, from the first of January 1970 on. -/
def dayNames : List String := ["Thu", "Fri", "Sat", "Sun", "Mon", "Tue", "Wed"]

def monthNames : List String :=
  ["Jan", "Feb", "Mar", "Apr", "May", "Jun", "Jul", "Aug", "Sep", "Oct", "Nov", "Dec"]

/-- A number with at least the given number of characters, filled up on the left. -/
def filled (fill : Char) (width : Nat) (n : Int) : String :=
  let cs := (toString n).toList
  String.ofList (List.replicate (width - cs.length) fill ++ cs)

def twoDigits (n : Nat) : String := filled '0' 2 n

/-- The date and time of an instant in seconds from the start of 1970. -/
def text (seconds : Int) : String :=
  let day := seconds.fdiv 86400
  let second := (seconds - day * 86400).toNat
  let d := Date.ofDay day
  dayNames.getD (day.fmod 7).toNat "" ++ ", " ++ twoDigits d.day ++ " " ++
    monthNames.getD (d.month - 1) "" ++ " " ++ filled ' ' 4 d.year ++ " " ++
    twoDigits (second / 3600) ++ ":" ++ twoDigits (second / 60 % 60) ++ ":" ++
    twoDigits (second % 60) ++ " GMT"

end SignIn.Http.Calendar
