import WeatherRelay.Text.Basic

/-!
# Kinds of services

The services that observations can be sent to, and the tags that name them in a configuration.
-/

namespace WeatherRelay

/-- A kind of service. -/
inductive ServiceKind where
  | weatherUnderground
  | weatherBug
  | personalWeatherStation
  | cwop
  | mqtt
  | sqlite
  | logFile
  | display
deriving DecidableEq, Repr

namespace ServiceKind

/-- All kinds, in the order in which tags are compared. -/
def all : List ServiceKind :=
  [.weatherUnderground, .weatherBug, .personalWeatherStation, .cwop, .mqtt, .sqlite, .logFile, .display]

/-- The tag of a kind. -/
def tag : ServiceKind → String
  | .weatherUnderground => "WeatherUnderground"
  | .weatherBug => "WeatherBug"
  | .personalWeatherStation => "PersonalWeatherStation"
  | .cwop => "CWOP"
  | .mqtt => "MQTT"
  | .sqlite => "sqlite"
  | .logFile => "logfile"
  | .display => "Display"

/-- The name of a kind. -/
def name : ServiceKind → String
  | .weatherUnderground => "WeatherUnderground"
  | .weatherBug => "WeatherBug"
  | .personalWeatherStation => "PersonalWeatherStation"
  | .cwop => "Cwop"
  | .mqtt => "Mqtt"
  | .sqlite => "Sqlite"
  | .logFile => "LogFile"
  | .display => "Display"

/-- A tag with the letters of ASCII made small; other letters count as they are. -/
def folded (tag : String) : String := tag.map Char.toLower

/-- The kind that a tag names, whatever the case of its letters and the white space around it. A second tag of the table is
`database`. -/
def ofTag? (tag : String) : Option ServiceKind :=
  let wanted := folded (Text.trim tag)
  if wanted = "database" then some .sqlite else all.find? fun k => folded k.tag == wanted

end ServiceKind

end WeatherRelay
