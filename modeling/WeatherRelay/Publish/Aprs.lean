import WeatherRelay.Averager
import WeatherRelay.Config
import WeatherRelay.Word

/-!
# Weather reports in packets

The report for the weather observers' network: one line of fixed columns. Coordinates are written in degrees and minutes
with two places; minutes that round up to sixty become a degree.
-/

namespace WeatherRelay.Aprs

section

variable {α : Type} [Scalar α]

/-- Whole degrees and minutes with two places, of a magnitude. -/
def split (magnitude : α) : Nat × α :=
  let whole := Scalar.whole magnitude
  let degrees := (Scalar.truncate 0 Word.maxNat32 whole).toNat
  let minutes := Scalar.round ((magnitude - whole) * 60.0 * 100.0) / 100.0
  if (60.0 : α) ≤ minutes then (degrees + 1, 0) else (degrees, minutes)

/-- A coordinate: degrees in columns of a width, minutes, and one of two letters for the side. -/
def coordinate (width : Nat) (positive negative : Char) (x : α) : List Char :=
  let (degrees, minutes) := split (Scalar.abs x)
  Decimal.column width degrees ++ (Scalar.exact minutes).fixedZeros 5 2 ++ [if x < 0 then negative else positive]

/-- A latitude, such as `4530.00N`. -/
def latitude (x : α) : List Char := coordinate 2 'N' 'S' x

/-- A longitude, such as `12236.00W`. -/
def longitude (x : α) : List Char := coordinate 3 'E' 'W' x

end

/-- A value rounded to a whole number of 64 bits, a half going away from zero. -/
def rounded (x : Float) : Int := Scalar.nearest Word.minInt64 Word.maxInt64 x

/-- The humidity in two columns: a hundred is written as zero. -/
def humidity (x : Float) : Int := if rounded x = 100 then 0 else rounded x

/-- The columns of the weather: direction and speed of the wind, gust, temperature, rain of an hour and a day in
hundredths of an inch, humidity, pressure in tenths of a millibar, and solar radiation. -/
def weather (o : Snapshot) : List Char :=
  '_' :: Decimal.column 3 (rounded o.windDirection) ++
    '/' :: Decimal.column 3 (rounded o.windSpeed) ++
    'g' :: Decimal.column 3 (rounded o.gustSpeed) ++
    't' :: Decimal.column 3 (rounded o.temperature) ++
    'r' :: Decimal.column 3 (rounded (o.rain60 * 100.0)) ++
    'P' :: Decimal.column 3 (rounded (o.rainDay * 100.0)) ++
    'h' :: Decimal.column 2 (humidity o.humidity) ++
    'b' :: Decimal.column 5 (rounded (o.pressure * 10.0)) ++
    'L' :: Decimal.column 3 (rounded o.solar)

/-- Day, hour and minute. -/
def time (now : Moment) : List Char :=
  Decimal.column 2 now.date.day ++ Decimal.column 2 now.hour ++ Decimal.column 2 now.minute

/-- The packet of a report, whose pressure is in millibars and whose other values are imperial. -/
def packet (callsign : String) (station : StationInfo) (o : Snapshot) (now : Moment) : String :=
  callsign ++ String.ofList (">APRS,TCPIP*:@".toList ++ time now ++ 'z' :: latitude station.latitude ++
    '/' :: longitude station.longitude ++ weather o) ++ "\r\n"

/-- The line that is sent before a packet. -/
def login (callsign : String) : String := s!"user {callsign} pass -1 vers wxpublish 0.1.0\r\n"

/-- Where reports go when nothing else is configured. -/
def usualHost : String := "cwop.aprs.net"

/-- The port for reports. -/
def usualPort : Nat := 14580

/-- The minutes between reports. -/
def every : Nat := 10

/-- The server: the configured host with the usual port, unless it names one. -/
def server (host : String) : String :=
  let h := Text.trim host
  if h.isEmpty then s!"{usualHost}:{usualPort}" else if h.toList.contains ':' then h else s!"{h}:{usualPort}"

end WeatherRelay.Aprs
