import WeatherRelay.Observation

/-!
# Interval averaging

A service that wants one report every few minutes gets the average of what was observed between two boundary minutes.
How wind directions are averaged is a `Bearing`, so that the laws of averaging do not hang on trigonometry.
-/

namespace WeatherRelay

/-- How directions are summed: the components of a direction toward east and north, and the direction
of summed components. -/
structure Bearing (α : Type) where
  east : α → α
  north : α → α
  mean : α → α → α

namespace Bearing

/-- Degrees as radians. -/
def radians (degrees : Float) : Float := degrees * (3.14159265358979323846264338327950288 / 180.0)

/-- Radians as degrees. -/
def degrees (radians : Float) : Float := radians * (180.0 / 3.14159265358979323846264338327950288)

/-- Unit vectors. Vectors that cancel out have the direction 0, and so has a direction that is nearly a full turn. -/
def unitVectors : Bearing Float where
  east d := (radians d).sin
  north d := (radians d).cos
  mean east north :=
    if east.abs < 1e-9 && north.abs < 1e-9 then 0.0
    else
      let direction := Scalar.wrap (degrees (Float.atan2 east north)) 360
      if 359.9999999 ≤ direction then 0.0 else direction

end Bearing

/-- What was summed since the last boundary. 32 bits hold the count as long as they hold the number of observations that
come between two boundaries (`Averager.count_le`). -/
structure Pending (α : Type) where
  count : Nat
  pressure : α
  seaLevelPressure : α
  windSpeed : α
  windEast : α
  windNorth : α
  temperature : α
  humidity : α
  dewPoint : α
  solar : α
  gustSpeed : α
  latest : Option (Observation α)

/-- The interval in minutes, and what was summed of it. -/
structure Averager (α : Type) where
  every : Nat
  pending : Pending α

section

variable {α : Type} [Scalar α]

/-- Nothing summed. -/
def Pending.none : Pending α where
  count := 0
  pressure := 0
  seaLevelPressure := 0
  windSpeed := 0
  windEast := 0
  windNorth := 0
  temperature := 0
  humidity := 0
  dewPoint := 0
  solar := 0
  gustSpeed := 0
  latest := Option.none

/-- Adds an observation to the sums. -/
def Pending.add (b : Bearing α) (p : Pending α) (o : Observation α) : Pending α where
  count := p.count + 1
  pressure := p.pressure + o.pressure
  seaLevelPressure := p.seaLevelPressure + o.seaLevelPressure
  windSpeed := p.windSpeed + o.windSpeed
  windEast := p.windEast + b.east o.windDirection
  windNorth := p.windNorth + b.north o.windDirection
  temperature := p.temperature + o.temperature
  humidity := p.humidity + o.humidity
  dewPoint := p.dewPoint + o.dewPoint
  solar := p.solar + o.solar
  gustSpeed := Scalar.larger p.gustSpeed o.gustSpeed
  latest := some o

/-- The report of the sums: means, the mean direction and the strongest gust, and for the rest the latest observation. -/
def Pending.report? (b : Bearing α) (p : Pending α) : Option (Observation α) :=
  p.latest.map fun o =>
    let n : α := Scalar.count p.count
    { o with
      pressure := p.pressure / n
      seaLevelPressure := p.seaLevelPressure / n
      windSpeed := p.windSpeed / n
      windDirection := b.mean p.windEast p.windNorth
      temperature := p.temperature / n
      humidity := p.humidity / n
      dewPoint := p.dewPoint / n
      solar := p.solar / n
      gustSpeed := p.gustSpeed }

namespace Averager

/-- An averager for an interval of at least one minute. -/
def ofMinutes (every : Nat) : Averager α := ⟨max every 1, .none⟩

/-- Whether a minute of the hour ends an interval. -/
def isBoundary (a : Averager α) (minute : Nat) : Bool := minute % a.every == 0

/-- Offers an observation. Off a boundary it is summed; on a boundary the sums are reported, if there are any, and begin
anew, and the observation itself is passed over. -/
def offer (b : Bearing α) (a : Averager α) (o : Observation α) (minute : Nat) : Option (Observation α) × Averager α :=
  if a.isBoundary minute then (a.pending.report? b, { a with pending := .none })
  else (Option.none, { a with pending := a.pending.add b o })

end Averager

end

end WeatherRelay
