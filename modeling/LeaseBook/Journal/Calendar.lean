/-!
Instants as dates and times of the Gregorian calendar in universal time. A day is counted in eras
of 400 years that begin on the first of March, so that the leap day comes last.
-/

namespace LeaseBook.Calendar

structure Date where
  year : Int
  month : Nat
  day : Nat
  deriving DecidableEq, Repr

/-- The date of a day that is counted from the first of January 1970. -/
def dateOfDay (day : Int) : Date :=
  let z := day + 719468
  let era := z / 146097
  let dayOfEra := (z % 146097).toNat
  let yearOfEra :=
    (dayOfEra - dayOfEra / 1460 + dayOfEra / 36524 - dayOfEra / 146096) / 365
  let dayOfYear := dayOfEra - (365 * yearOfEra + yearOfEra / 4 - yearOfEra / 100)
  let shifted := (5 * dayOfYear + 2) / 153
  let month := if shifted < 10 then shifted + 3 else shifted - 9
  { year := era * 400 + yearOfEra + (if month ≤ 2 then 1 else 0)
    month := month
    day := dayOfYear - (153 * shifted + 2) / 5 + 1 }

def twoDigits (n : Nat) : String := if n < 10 then "0" ++ toString n else toString n

def text (seconds : Int) : String :=
  let date := dateOfDay (seconds / 86400)
  let second := (seconds % 86400).toNat
  toString date.year ++ "-" ++ twoDigits date.month ++ "-" ++ twoDigits date.day ++ " " ++
    twoDigits (second / 3600) ++ ":" ++ twoDigits (second / 60 % 60) ++ ":" ++
    twoDigits (second % 60)

example : text 0 = "1970-01-01 00:00:00" := by decide +kernel

example : text 951782400 = "2000-02-29 00:00:00" := by decide +kernel

end LeaseBook.Calendar
