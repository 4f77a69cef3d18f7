import WeatherRelay.Decimal.Basic

/-!
# Calendar

Dates and times of the proleptic Gregorian calendar, their place on the line of seconds, their text, the zones in which
clocks show them, and the periods that rain is summed over.
-/

namespace WeatherRelay

/-- Whether a year has a 29th of February. -/
def isLeap (year : Int) : Bool := year % 4 = 0 ∧ (year % 100 ≠ 0 ∨ year % 400 = 0)

/-- The number of days in a month, `0` when there is no such month. -/
def monthLength (year : Int) : Nat → Nat
  | 1 => 31 | 2 => if isLeap year then 29 else 28
  | 3 => 31 | 4 => 30 | 5 => 31 | 6 => 30 | 7 => 31 | 8 => 31 | 9 => 30 | 10 => 31 | 11 => 30 | 12 => 31
  | _ => 0

/-- A day of the calendar, which covers the years from `-262143` to `262142`. -/
structure Date where
  year : Int
  month : Nat
  day : Nat
  covered : -262143 ≤ year ∧ year ≤ 262142
  isDay : 1 ≤ day ∧ day ≤ monthLength year month
deriving DecidableEq

/-- A second of the calendar, without a time zone. -/
structure Moment where
  date : Date
  hour : Nat
  minute : Nat
  second : Nat
  isTime : hour < 24 ∧ minute < 60 ∧ second < 60
deriving DecidableEq

namespace Date

/-- The day with these fields, if the calendar has it. -/
def of? (year : Int) (month day : Nat) : Option Date :=
  if h : (-262143 ≤ year ∧ year ≤ 262142) ∧ 1 ≤ day ∧ day ≤ monthLength year month then
    some ⟨year, month, day, h.1, h.2⟩
  else none

/-- The days of a year before a month. -/
def daysBeforeMonth (year : Int) (month : Nat) : Nat :=
  (List.range month).foldl (fun days m => days + monthLength year m) 0

/-- The days from the first of January of the year 1 to the first of January of a year. -/
def daysBeforeYear (year : Int) : Int :=
  let past := year - 1
  365 * past + past / 4 - past / 100 + past / 400

/-- Days since the first of January 1970. -/
def dayNumber (d : Date) : Int :=
  daysBeforeYear d.year + daysBeforeMonth d.year d.month + d.day - 1 - 719162

/-- Year, month and day of the day with a number, counted in eras of 400 years that begin on a first of March. -/
def fields (n : Int) : Int × Nat × Nat :=
  let z := n + 719468
  let era := z / 146097
  let dayOfEra := z % 146097
  let yearOfEra := (dayOfEra - dayOfEra / 1460 + dayOfEra / 36524 - dayOfEra / 146096) / 365
  let dayOfYear := dayOfEra - (365 * yearOfEra + yearOfEra / 4 - yearOfEra / 100)
  let shifted := (5 * dayOfYear + 2) / 153
  let day := dayOfYear - (153 * shifted + 2) / 5 + 1
  let month := if shifted < 10 then shifted + 3 else shifted - 9
  (yearOfEra + era * 400 + if month ≤ 2 then 1 else 0, month.toNat, day.toNat)

/-- The day with a number, if the calendar has it. -/
def ofDayNumber? (n : Int) : Option Date :=
  let (year, month, day) := fields n
  of? year month day

end Date

namespace Moment

/-- The second with these fields, if there is one. -/
def of? (year : Int) (month day hour minute second : Nat) : Option Moment :=
  (Date.of? year month day).bind fun date =>
    if h : hour < 24 ∧ minute < 60 ∧ second < 60 then some ⟨date, hour, minute, second, h⟩ else none

/-- The beginning of 1970. -/
def start1970 : Moment := ⟨⟨1970, 1, 1, by decide, by decide⟩, 0, 0, 0, by decide⟩

instance : Inhabited Moment := ⟨start1970⟩

/-- Seconds since the beginning of 1970. -/
def epoch (t : Moment) : Int := t.date.dayNumber * 86400 + (t.hour * 3600 + t.minute * 60 + t.second : Nat)

/-- Hour, minute and second of the day that many seconds after the beginning of 1970. -/
def timeOfDay (seconds : Int) : Nat × Nat × Nat :=
  let rest := (seconds % 86400).toNat
  (rest / 3600, rest / 60 % 60, rest % 60)

/-- The moment that many seconds after the beginning of 1970, while the calendar reaches that far. -/
def ofEpoch? (seconds : Int) : Option Moment :=
  (Date.ofDayNumber? (seconds / 86400)).bind fun date =>
    let (hour, minute, second) := timeOfDay seconds
    of? date.year date.month date.day hour minute second

/-- Minutes since the beginning of 1970, rounded down. -/
def minuteIndex (t : Moment) : Int := t.epoch / 60

/-- Hours since the beginning of 1970, rounded down. -/
def hourIndex (t : Moment) : Int := t.epoch / 3600

end Moment

/-! ## Text -/

/-- A year has four digits, and a sign when it lies outside the years 0 to 9999. -/
def yearText (year : Int) : List Char :=
  if 0 ≤ year ∧ year ≤ 9999 then Decimal.column 4 year
  else if year < 0 then Decimal.column 5 year
  else '+' :: Decimal.column 4 year

/-- Year, month and day: `2024-06-12`. -/
def dayText (year : Int) (month day : Nat) : String :=
  String.ofList (yearText year ++ '-' :: Decimal.column 2 month ++ '-' :: Decimal.column 2 day)

/-- Hour, minute and second after a blank: ` 07:05:09`. -/
def timeText (hour minute second : Nat) : String :=
  String.ofList (' ' :: Decimal.column 2 hour ++ ':' :: Decimal.column 2 minute ++ ':' :: Decimal.column 2 second)

/-- A day: `2024-06-12`. -/
def Date.text (d : Date) : String := dayText d.year d.month d.day

/-- A day and a time: `2024-06-12 07:05:09`. -/
def Moment.text (t : Moment) : String := t.date.text ++ timeText t.hour t.minute t.second

/-! ## Zones -/

/-- How far the clocks of a time zone are ahead of universal time, in seconds, at each second since the beginning of
1970: less than a day, one way or the other. -/
structure Zone where
  ahead : Int → Int
  isShift : ∀ seconds, -86400 < ahead seconds ∧ ahead seconds < 86400

namespace Zone

/-- Universal time. -/
def utc : Zone := ⟨fun _ => 0, fun _ => by decide⟩

/-- A zone by its shifts; one that is too long is cut short. -/
def ofShifts (ahead : Int → Int) : Zone := ⟨fun seconds => max (-86399) (min 86399 (ahead seconds)), fun _ => by omega⟩

/-- What the clocks of a zone show that many seconds after the beginning of 1970, also where the
calendar has just ended. -/
def text (z : Zone) (seconds : Int) : String :=
  let shown := seconds + z.ahead seconds
  let (year, month, day) := Date.fields (shown / 86400)
  let (hour, minute, second) := Moment.timeOfDay shown
  dayText year month day ++ timeText hour minute second

end Zone

/-- A calendar period that rain is summed over. -/
inductive Period where
  | minute
  | hour
  | day
  | month
  | year
deriving DecidableEq, Repr

namespace Period

/-- The name of a period. -/
def name : Period → String
  | .minute => "Minute"
  | .hour => "Hour"
  | .day => "Day"
  | .month => "Month"
  | .year => "Year"

/-- Whether two moments fall in one period of this kind. -/
def same (p : Period) (a b : Moment) : Bool :=
  let year := a.date.year == b.date.year
  let month := year && a.date.month == b.date.month
  let day := month && a.date.day == b.date.day
  let hour := day && a.hour == b.hour
  match p with
  | .year => year
  | .month => month
  | .day => day
  | .hour => hour
  | .minute => hour && a.minute == b.minute

end Period

end WeatherRelay
