import WeatherRelay.Units

/-!
# Derived values

What is computed from a reading of temperature, humidity, wind and pressure.
-/

namespace WeatherRelay.Comfort

open WeatherRelay.Units

/-- The dew point in degrees Celsius, from the air temperature in degrees Celsius and the relative humidity in percent, by
the Magnus formula. -/
def dewPoint (temperature humidity : Float) : Float :=
  let b := (17.625 * temperature) / (243.04 + temperature)
  let h := (humidity / 100.0).log
  (243.04 * (h + b)) / (17.625 - h - b)

/-- The heat index in degrees Celsius, by the Rothfusz regression; below 80 degrees Fahrenheit or 40 percent humidity
the air temperature itself. -/
def heatIndex (temperature humidity : Float) : Float :=
  let t := fahrenheit temperature
  let h := humidity
  if t < 80.0 || h < 40.0 then temperature
  else
    celsius (-42.379 + 2.04901523 * t + 10.14333127 * h + -0.22475541 * t * h + -6.83783e-3 * t * t + -5.481717e-2 * h * h +
      1.22874e-3 * t * t * h + 8.5282e-4 * t * h * h + -1.99e-6 * t * t * h * h)

/-- The wind chill in degrees Celsius; from 50 degrees Fahrenheit on, or with no more than 5 miles per hour of wind, the
air temperature itself. -/
def windChill (temperature windSpeed : Float) : Float :=
  let t := fahrenheit temperature
  let v := milesPerHour windSpeed
  if t < 50.0 && 5.0 < v then
    let p := v.pow 0.16
    celsius (35.74 + 0.6215 * t - 35.75 * p + 0.4275 * t * p)
  else temperature

/-- What the temperature feels like: the heat index in heat, the wind chill in cold. -/
def feelsLike (temperature windSpeed humidity : Float) : Float :=
  let t := fahrenheit temperature
  if 80.0 ≤ t then heatIndex temperature humidity
  else if t < 50.0 then windChill temperature windSpeed
  else temperature

/-- The pressure of the station reduced to sea level, for an elevation in metres. -/
def seaLevelPressure (pressure elevation : Float) : Float :=
  pressure / (1.0 - elevation / 44330.0).pow 5.255

end WeatherRelay.Comfort
