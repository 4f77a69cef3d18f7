import WeatherRelay.Station

/-!
# A table of observations

One row for every observation. All columns but the time have to hold a value, and what is no number is no value.
-/

namespace WeatherRelay.WeatherTable

/-- The name of the table. -/
def name : String := "weather_log"

/-- The columns of numbers, with their values. -/
def columns (o : Snapshot) : List (String × Float) :=
  [("pressure", o.pressure), ("temperature", o.temperature), ("humidity", o.humidity), ("windspeed", o.windSpeed),
    ("winddirection", o.windDirection), ("gustspeed", o.gustSpeed), ("gustdirection", o.gustDirection),
    ("rainfall_1min", o.rainMinute), ("rainfall_1hr", o.rain60), ("rainfall_day", o.rainDay), ("rainfall_month", o.rainMonth),
    ("rainfall_year", o.rainYear), ("dewpoint", o.dewPoint), ("heatindex", o.heatIndex)]

/-- A row: a number that counts rows from one, the time of the observation, the station's name, and
the columns of numbers. -/
structure Row where
  id : Nat
  timestamp : Option String
  station : String
  values : List Float

/-- The rows with one more for an observation, or the first column that has no value. -/
def insert (rows : List Row) (station : String) (o : Snapshot) : Except String (List Row) :=
  match (columns o).find? fun c => c.2.isNaN with
  | some c => .error c.1
  | none => .ok (rows ++ [⟨rows.length + 1, o.timestamp, station, (columns o).map (·.2)⟩])

end WeatherRelay.WeatherTable
