import WeatherRelay.Scalar

/-!
# Unit conversions

Readings are kept in metric units and converted where they leave the service.
-/

namespace WeatherRelay.Units

variable {α : Type} [Scalar α]

/-- Degrees Celsius to degrees Fahrenheit. -/
def fahrenheit (celsius : α) : α := celsius * 1.8 + 32.0

/-- Degrees Fahrenheit to degrees Celsius. -/
def celsius (fahrenheit : α) : α := (fahrenheit - 32.0) / 1.8

/-- Metres per second to miles per hour. -/
def milesPerHour (metresPerSecond : α) : α := metresPerSecond / 0.44704

/-- Millibars to inches of mercury. -/
def inchesOfMercury (millibars : α) : α := millibars * 0.02952998751

/-- Kilometres to statute miles. -/
def miles (kilometres : α) : α := kilometres / 1.609344

/-- Millimetres to inches. -/
def inches (millimetres : α) : α := millimetres * 0.03937

end WeatherRelay.Units
