import WeatherRelay.Station

/-!
# Readouts

An observation drawn on a terminal, and as a line of a log file, its values divided by bars.
-/

namespace WeatherRelay.Dashboard

/-- Clears the screen and goes to its corner. -/
def clear : String := "\x1b[2J\x1b[H"

/-- The signs of units. -/
structure Units where
  temperature : String
  speed : String
  rain : String
  pressure : String
  distance : String

/-- Metric units. -/
def metric : Units := ⟨"°C", " m/s", " mm", " mb", " km"⟩

/-- Imperial units. -/
def imperial : Units := ⟨"°F", " mph", " in", " inHg", " miles"⟩

/-- Text filled up with blanks on the left. -/
def right (width : Nat) (s : String) : String := String.ofList (Decimal.padLeft width ' ' s.toList)

/-- Text filled up with blanks on the right. -/
def left (width : Nat) (s : String) : String := s ++ String.ofList (List.replicate (width - s.length) ' ')

/-- A value with one place in five columns. -/
def one (x : Float) : String := Decimal.floatColumn 5 1 x

/-- A value without places in five columns. -/
def whole (x : Float) : String := Decimal.floatColumn 5 0 x

/-- A value with two places in six columns. -/
def two (x : Float) : String := Decimal.floatColumn 6 2 x

/-- A value that may be missing. -/
def maybe (x : Option Float) : String := one (x.getD (0.0 / 0.0))

/-- The line of a temperature with its high and low. -/
def temperatures (u : Units) (x : Float) (high low : Option Float) : String :=
  s!"Temperature:    {one x}{u.temperature}       High:        {maybe high}{u.temperature}       Low:        {maybe low}{u.temperature}\n"

/-- The lines of an auxiliary sensor; of its place nine characters are shown. -/
def sensor (u : Units) (s : AuxSensor Float) : String :=
  let place := right 9 (String.ofList (s.location.toList.take 9))
  s!"Sensor:       {place}       Humidity:    {one s.humidity}%\n" ++ temperatures u s.temperature s.high s.low ++ "\n"

/-- The screen of an observation that is in the units shown. -/
def render (station : StationInfo) (o : Snapshot) (isMetric : Bool) : String :=
  let u := if isMetric then metric else imperial
  let t := u.temperature
  let r := u.rain
  let updated := o.timestamp.getD "-"
  let strikes := right 5 (toString o.strikes)
  String.join [
    s!"{station.name}  -- Last Update: {updated}\n\n",
    temperatures u o.temperature o.high o.low,
    s!"Dew point:      {one o.dewPoint}{t}       Windchill:   {one o.windChill}{t}       Heat index: {one o.heatIndex}{t}\n\n",
    s!"Pressure:      {Decimal.floatColumn 7 2 o.seaLevelPressure}{left 6 u.pressure}  Humidity:    {one o.humidity}%        ",
    s!"Feels like: {one o.feelsLike}{t}\n\n",
    s!"Wind speed:     {one o.windSpeed}{u.speed}     Wind dir:    {whole o.windDirection}° ({o.windCardinal})\n",
    s!"Gust speed:     {one o.gustSpeed}{u.speed}     Gust dir:    {whole o.gustDirection}°\n\n",
    s!"Illumination:   {whole o.illumination} Lux     Solar Rad:   {whole o.solar} W/m^2   UV index:   {one o.uv}\n\n",
    s!"Rain:          {two o.rain}{r}      Rain 1hr:   {two o.rain60}{r}      Rain 24hrs:{two o.rain24}{r}\n",
    s!"Daily rain:    {two o.rainDay}{r}      Monthly:    {two o.rainMonth}{r}      Yearly:    {two o.rainYear}{r}\n\n",
    s!"Pressure trend: {right 7 o.trend.text}       Lightning:   {strikes}         ",
    s!"Distance:  {one o.strikeDistance}{u.distance}\n\n",
    String.join (o.sensors.map (sensor u)),
    String.ofList (List.replicate 79 '-') ++ "\n"]

end WeatherRelay.Dashboard

namespace WeatherRelay.LogFile

/-- The line of an observation that is in the units shown. -/
def line (o : Snapshot) (metric : Bool) (now : Moment) : String :=
  let pressure := if metric then "mb" else "inHg"
  let speed := if metric then "m/s" else "mph"
  let two (x : Float) : String := Decimal.floatText 2 x
  let one (x : Float) : String := Decimal.floatText 1 x
  let direction := Decimal.floatColumn 3 0 o.windDirection
  s!"{now.text}|{two o.pressure}{pressure}|{two o.rainYear}|{two o.rainMonth}|{two o.rainDay}|{two o.rain60}|{two o.rain}|" ++
    s!"{direction}|{one o.gustSpeed}{speed}|{one o.windSpeed}{speed}|{one o.humidity}%|{one o.dewPoint}º|{one o.temperature}º\n"

end WeatherRelay.LogFile
