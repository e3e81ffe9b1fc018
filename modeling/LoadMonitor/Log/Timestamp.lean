import LoadMonitor.Binary64.Decimal

/-!
# Timestamps

Points of time as they are written into log records: date and time of day in UTC, with six
places after the seconds.
-/

namespace LoadMonitor

/-- A date of the Gregorian calendar. -/
structure CalendarDate where
  year : Nat
  month : Nat
  day : Nat
  deriving DecidableEq, Repr

namespace CalendarDate

/-- The date that is a number of days after the first of January 1970. Years are counted from
the first of March, so that a leap day is the last day of its year, and in eras of four
hundred years, which all have the same length. -/
def ofDays (days : Nat) : CalendarDate :=
  let shifted := days + 719468
  let era := shifted / 146097
  let dayOfEra := shifted % 146097
  let yearOfEra := (dayOfEra - dayOfEra / 1460 + dayOfEra / 36524 - dayOfEra / 146096) / 365
  let dayOfYear := dayOfEra - (365 * yearOfEra + yearOfEra / 4 - yearOfEra / 100)
  let fromMarch := (5 * dayOfYear + 2) / 153
  let day := dayOfYear - (153 * fromMarch + 2) / 5 + 1
  let month := if fromMarch < 10 then fromMarch + 3 else fromMarch - 9
  let year := yearOfEra + era * 400 + if month ≤ 2 then 1 else 0
  ⟨year, month, day⟩

end CalendarDate

namespace Timestamp

/-- The text of the point of time that is a number of microseconds after the beginning of
1970. -/
def text (micros : Nat) : String :=
  let seconds := micros / 1000000
  let date := CalendarDate.ofDays (seconds / 86400)
  let pad := Binary64.paddedDigits
  String.ofList <|
    pad 4 date.year ++ '-' :: pad 2 date.month ++ '-' :: pad 2 date.day ++ 'T'
      :: pad 2 (seconds % 86400 / 3600) ++ ':' :: pad 2 (seconds % 3600 / 60) ++ ':'
      :: pad 2 (seconds % 60) ++ '.' :: pad 6 (micros % 1000000) ++ ['Z']

end Timestamp
end LoadMonitor
