import WeatherRelay.Scalar
import WeatherRelay.Word

/-!
# Wind

Directions by the sixteen points of the compass, and the held gust: the strongest wind of an interval is held. A summary
sample counts, and every thirtieth one ends the interval and is held outright, so that an old peak does not stay for
ever; an instant sample only raises what is held.
-/

namespace WeatherRelay

namespace Compass

/-- The names of the points, clockwise from north, `22.5` degrees apart. -/
def points : List String :=
  ["N", "NNE", "NE", "ENE", "E", "ESE", "SE", "SSE", "S", "SSW", "SW", "WSW", "W", "WNW", "NW", "NNW"]

/-- The place in the table of the point nearest to a direction; half way between two points the later one is taken. -/
def index {α : Type} [Scalar α] (degrees : α) : Nat :=
  (Scalar.truncate 0 Word.maxNat64 (Scalar.wrap degrees 360 / 22.5 + 0.5)).toNat % 16

/-- The name of the point nearest to a direction in degrees. -/
def cardinal {α : Type} [Scalar α] (degrees : α) : String := points.getD (index degrees) ""

end Compass

/-- A wind sample: a speed in metres per second and a direction in degrees. -/
structure Gust where
  speed : Float := 0.0
  direction : Float := 0.0

/-- The gust held, and the number of summary samples since the interval began. -/
structure GustTracker where
  held : Gust := {}
  count : Nat := 0

namespace GustTracker

/-- The number of summary samples in an interval. -/
def interval : Nat := 30

/-- Holds a sample that is stronger than the one held. -/
def hold (t : GustTracker) (sample : Gust) : GustTracker :=
  if t.held.speed < sample.speed then { t with held := sample } else t

/-- Counts a summary sample; the last of an interval is held whatever its speed. -/
def observe (t : GustTracker) (sample : Gust) : GustTracker :=
  if t.count + 1 < interval then { t.hold sample with count := t.count + 1 } else { held := sample, count := 0 }

end GustTracker

end WeatherRelay
