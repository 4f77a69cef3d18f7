import WeatherRelay.Averager
import WeatherRelay.Calendar
import WeatherRelay.Config
import WeatherRelay.Net.Url

/-!
# Uploads to web services

Three services take a report as the parameters of a web address. All of them want imperial units, two of them only
every other minute, averaged.
-/

namespace WeatherRelay.Upload

/-- The name that uploads are sent under. -/
def agent : String := "wxpublish/0.1.0"

/-- The beginning of the address: the host that is configured, or the usual one; a host without a
scheme is reached securely. -/
def base (host usual : String) : String :=
  let trimmed := Text.trim host
  let chosen := if trimmed.isEmpty then usual else trimmed
  let bare := String.ofList (chosen.toList.reverse.dropWhile (· == '/')).reverse
  if bare.startsWith "http://" || bare.startsWith "https://" then bare else "https://" ++ bare

/-- A value with two places. -/
def number (x : Float) : String := Decimal.floatText 2 x

/-- A web service: its usual host, the path for uploads, its name in errors, the minutes between its reports (none if it
takes every one), whether it converts units whatever is configured, and the parameters of a report. -/
structure Service where
  host : String
  path : String
  name : String
  every : Option Nat
  alwaysImperial : Bool
  parameters : DestinationConfig → Snapshot → String → List (String × String)

/-- The Weather Underground. -/
def weatherUnderground : Service where
  host := "rtupdate.wunderground.com"
  path := "/weatherstation/updateweatherstation.php"
  name := "WeatherUnderground"
  every := none
  alwaysImperial := true
  parameters config o time :=
    [("ID", config.name), ("PASSWORD", config.password), ("dateutc", time), ("softwaretype", "wxpublish"),
      ("action", "updateraw"), ("baromin", number o.seaLevelPressure), ("dailyrainin", number o.rainDay),
      ("rainin", number o.rain60), ("windgustdir", number o.gustDirection), ("winddir", number o.windDirection),
      ("windgustmph", number o.gustSpeed), ("windspeedmph", number o.windSpeed), ("humidity", number o.humidity),
      ("dewptf", number o.dewPoint), ("tempf", number o.temperature)]

/-- WeatherBug. -/
def weatherBug : Service where
  host := "data.backyard2.weatherbug.com"
  path := "/data/livedata.aspx"
  name := "WeatherBug"
  every := some 2
  alwaysImperial := false
  parameters config o time :=
    [("action", "live"), ("ID", config.name), ("Key", config.password), ("Num", config.extra), ("dateutc", time),
      ("softwaretype", "wxpublish"), ("baromin", number o.seaLevelPressure), ("dailyrainin", number o.rainDay),
      ("rainin", number o.rain60), ("windgustdir", number o.gustDirection), ("winddir", number o.windDirection),
      ("windgustmph", number o.gustSpeed), ("windspeedmph", number o.windSpeed), ("humidity", number o.humidity),
      ("dewptf", number o.dewPoint), ("tempf", number o.temperature), ("monthlyrainin", number o.rainMonth),
      ("Yearlyrainin", number o.rainYear)]

/-- PWSWeather. -/
def pwsWeather : Service where
  host := "www.pwsweather.com"
  path := "/pwsupdate/pwsupdate.php"
  name := "PWSWeather"
  every := some 2
  alwaysImperial := false
  parameters config o time :=
    [("ID", config.name), ("PASSWORD", config.password), ("dateutc", time), ("baromin", number o.seaLevelPressure),
      ("dailyrainin", number o.rainDay), ("rainin", number o.rain60), ("winddir", number o.windDirection),
      ("windgustmph", number o.gustSpeed), ("windspeedmph", number o.windSpeed), ("humidity", number o.humidity),
      ("dewptf", number o.dewPoint), ("tempf", number o.temperature), ("monthrainin", number o.rainMonth),
      ("yearrainin", number o.rainYear), ("solarradiation", number o.solar), ("UV", number o.uv),
      ("softwaretype", "wxpublish"), ("action", "updateraw")]

namespace Service

/-- The observation in the units that it is sent in. -/
def converted (s : Service) (config : DestinationConfig) (o : Snapshot) : Snapshot :=
  if s.alwaysImperial || !config.metric then o.toImperial .all else o

/-- What is sent of an observation made in a minute of the hour, if anything is. -/
def prepare (s : Service) (config : DestinationConfig) (averager : Averager Float) (o : Snapshot) (minute : Nat) :
    Option Snapshot × Averager Float :=
  match s.every with
  | none => (some (s.converted config o), averager)
  | some _ => averager.offer .unitVectors (s.converted config o) minute

/-- The address of a report, if the host makes one. -/
def address? (s : Service) (config : DestinationConfig) (report : Snapshot) (now : Moment) : Option Net.Url :=
  (Net.Url.of? (base config.host s.host ++ s.path)).map fun u => u.withForm (s.parameters config report now.text)

end Service

end WeatherRelay.Upload
