import WeatherRelay.Pressure
import WeatherRelay.Units

/-!
# Observations

What the station knows at a moment: readings, sums and derived values, in metric units, and the readings of auxiliary
sensors. An observation can be converted to imperial units, with or without its pressures.
-/

namespace WeatherRelay

/-- What is known of an auxiliary sensor. -/
structure AuxSensor (α : Type) where
  id : String
  location : String
  temperature : α
  humidity : α
  high : Option α := none
  low : Option α := none
  timestamp : Option String := none

/-- Everything observed and derived. The timestamp is that of the last air reading; auxiliary sensors are in the order
in which they were first heard. -/
structure Observation (α : Type) where
  timestamp : Option String
  pressure : α
  seaLevelPressure : α
  temperature : α
  high : Option α
  low : Option α
  humidity : α
  windSpeed : α
  windDirection : α
  windCardinal : String
  gustSpeed : α
  gustDirection : α
  illumination : α
  uv : α
  solar : α
  strikes : Nat
  strikeDistance : α
  rain : α
  rainMinute : α
  rainHour : α
  rainDay : α
  rainMonth : α
  rainYear : α
  rain60 : α
  rain24 : α
  dewPoint : α
  heatIndex : α
  windChill : α
  feelsLike : α
  trend : Trend
  sensors : List (AuxSensor α)

/-- An observation as the service makes it. -/
abbrev Snapshot := Observation Float

/-- Which quantities a conversion to imperial units takes in. -/
inductive Conversion where
  | all
  | keepPressure
deriving DecidableEq, Repr

section

variable {α : Type} [Scalar α]

/-- A sensor of which nothing is known but its name and place. -/
def AuxSensor.fresh (id location : String) : AuxSensor α := { id, location, temperature := 0, humidity := 0 }

/-- The sensor with its temperatures in degrees Fahrenheit. -/
def AuxSensor.toImperial (s : AuxSensor α) : AuxSensor α :=
  { s with
    temperature := Units.fahrenheit s.temperature
    high := s.high.map Units.fahrenheit
    low := s.low.map Units.fahrenheit }

namespace Observation

/-- An observation of nothing. -/
def empty : Observation α where
  timestamp := none
  pressure := 0
  seaLevelPressure := 0
  temperature := 0
  high := none
  low := none
  humidity := 0
  windSpeed := 0
  windDirection := 0
  windCardinal := ""
  gustSpeed := 0
  gustDirection := 0
  illumination := 0
  uv := 0
  solar := 0
  strikes := 0
  strikeDistance := 0
  rain := 0
  rainMinute := 0
  rainHour := 0
  rainDay := 0
  rainMonth := 0
  rainYear := 0
  rain60 := 0
  rain24 := 0
  dewPoint := 0
  heatIndex := 0
  windChill := 0
  feelsLike := 0
  trend := .steady
  sensors := []

instance : Inhabited (Observation α) := ⟨empty⟩

/-- A pressure after a conversion: in inches of mercury, unless pressures are kept. -/
def convertPressure (c : Conversion) (millibars : α) : α :=
  match c with
  | .all => Units.inchesOfMercury millibars
  | .keepPressure => millibars

/-- The observation in imperial units: degrees Fahrenheit, miles per hour, inches and miles. -/
def toImperial (c : Conversion) (o : Observation α) : Observation α :=
  { o with
    temperature := Units.fahrenheit o.temperature
    high := o.high.map Units.fahrenheit
    low := o.low.map Units.fahrenheit
    dewPoint := Units.fahrenheit o.dewPoint
    heatIndex := Units.fahrenheit o.heatIndex
    windChill := Units.fahrenheit o.windChill
    feelsLike := Units.fahrenheit o.feelsLike
    windSpeed := Units.milesPerHour o.windSpeed
    gustSpeed := Units.milesPerHour o.gustSpeed
    pressure := convertPressure c o.pressure
    seaLevelPressure := convertPressure c o.seaLevelPressure
    strikeDistance := Units.miles o.strikeDistance
    rain := Units.inches o.rain
    rainMinute := Units.inches o.rainMinute
    rainHour := Units.inches o.rainHour
    rainDay := Units.inches o.rainDay
    rainMonth := Units.inches o.rainMonth
    rainYear := Units.inches o.rainYear
    rain60 := Units.inches o.rain60
    rain24 := Units.inches o.rain24
    sensors := o.sensors.map AuxSensor.toImperial }

/-- The record of an auxiliary sensor. -/
def sensor? (o : Observation α) (id : String) : Option (AuxSensor α) := o.sensors.find? (·.id == id)

end Observation

end

end WeatherRelay
