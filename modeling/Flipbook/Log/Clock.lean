import Flipbook.Fault

/-!
Points in time and the days of the calendar on which they lie.
-/

namespace Flipbook.Log

/-- Whole seconds since the start of 1970 in universal time, and the milliseconds shown with
them. -/
structure Moment where
  seconds : Int
  milliseconds : Int := 0

structure Day where
  year : Int
  month : Int
  day : Int
  dayOfYear : Int
  weekday : Int

namespace Day

def isLeap (year : Int) : Bool := year % 4 = 0 && (year % 100 ≠ 0 || year % 400 = 0)

/-- The calendar day by its distance from the first day of 1970. Years begin in March here, and
their days are counted in eras of 400 years. The first day of 1970 was a Thursday. -/
def ofDays (days : Int) : Day :=
  let shifted := days + 719468
  let era := shifted / 146097
  let dayOfEra := shifted % 146097
  let yearOfEra := (dayOfEra - dayOfEra / 1460 + dayOfEra / 36524 - dayOfEra / 146096) / 365
  let fromMarch := dayOfEra - (365 * yearOfEra + yearOfEra / 4 - yearOfEra / 100)
  let monthFromMarch := (5 * fromMarch + 2) / 153
  let month := if monthFromMarch < 10 then monthFromMarch + 3 else monthFromMarch - 9
  let year := yearOfEra + era * 400 + (if month ≤ 2 then 1 else 0)
  { year
    month
    day := fromMarch - (153 * monthFromMarch + 2) / 5 + 1
    dayOfYear :=
      if month ≤ 2 then fromMarch - 306 else fromMarch + 59 + (if isLeap year then 1 else 0)
    weekday := (days + 4) % 7 }

def middleOfWeek (days : Int) : Day := ofDays (days + 3 - (days + 3) % 7)

end Day

namespace Moment

def days (moment : Moment) : Int := moment.seconds / 86400

def secondOfDay (moment : Moment) : Int := moment.seconds % 86400

def day (moment : Moment) : Day := Day.ofDays moment.days

def hour (moment : Moment) : Int := moment.secondOfDay / 3600

def clockHour (moment : Moment) : Int := (moment.hour + 11) % 12 + 1

def minute (moment : Moment) : Int := moment.secondOfDay / 60 % 60

def second (moment : Moment) : Int := moment.secondOfDay % 60

def lastSecond : Int := 0x7fffffffffffffff

def lastYear : Int := 0x7fffffff

def calendarStart : Int := 1900

def check (moment : Moment) : Except Fault Unit :=
  let year := moment.day.year
  if moment.seconds < -lastSecond - 1 || lastSecond < moment.seconds then .error .timeBeyondClock
  else if year - calendarStart < -lastYear - 1 || lastYear < year - calendarStart then
    .error .timeBeyondCalendar
  else if lastYear < year then .error .yearBeyondWriting
  else .ok ()

end Moment

end Flipbook.Log
