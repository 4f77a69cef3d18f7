import WeatherRelay.Config

/-!
# Topics of a message broker

One topic for every value, under a lead that can be configured; values of auxiliary sensors stand under their places.
-/

namespace WeatherRelay.Mqtt

/-- The port of a broker when none is configured. -/
def usualPort : Nat := 1883

/-- The lead of the topics when none is configured. -/
def usualLead : String := "weather"

/-- Why a host names no broker. -/
inductive BrokerError where
  | noHost
  | badPort (host : String)
deriving DecidableEq, Repr

/-- The wording of an error. -/
def BrokerError.text : BrokerError → String
  | .noHost => "MQTT needs a broker host"
  | .badPort host => s!"bad MQTT port in '{host}'"

/-- A port: an unsigned number up to 65535, which may have a plus sign. -/
def port? (cs : List Char) : Option Nat :=
  match cs with
  | '+' :: ds => Decimal.bounded? 10 65535 ds
  | ds => Decimal.bounded? 10 65535 ds

/-- What stands before and after the last colon, if there is one. -/
def splitLast? (cs : List Char) : Option (List Char × List Char) :=
  match cs.reverse.dropWhile (· != ':') with
  | [] => none
  | _ :: front => some (front.reverse, (cs.reverse.takeWhile (· != ':')).reverse)

/-- The name and port of a broker: what stands before and after the last colon. -/
def broker (host : String) : Except BrokerError (String × Nat) :=
  let cs := Text.trimmed host.toList
  if cs.isEmpty then .error .noHost
  else
    match splitLast? cs with
    | none => .ok (String.ofList cs, usualPort)
    | some (name, port) =>
      match port? port with
      | none => .error (.badPort (String.ofList cs))
      | some n => .ok (String.ofList name, n)

/-- The lead of the topics, without slashes at its end. -/
def lead (extra : String) : String :=
  let cs := ((Text.trimmed extra.toList).reverse.dropWhile (· == '/')).reverse
  if cs.isEmpty then usualLead else String.ofList cs

/-- A topic with what is published there. -/
structure Message where
  topic : String
  payload : String
deriving DecidableEq, Repr

/-- The values that an observation always has, by the last part of their topics. -/
def mainValues (o : Snapshot) : List (String × Float) :=
  [("Temperature", o.temperature), ("Humidity", o.humidity), ("Pressure", o.pressure),
    ("SeaLevelPressure", o.seaLevelPressure), ("Windspeed", o.windSpeed), ("Winddirection", o.windDirection),
    ("Gustspeed", o.gustSpeed), ("Gustdirection", o.gustDirection), ("Dewpoint", o.dewPoint), ("Heatindex", o.heatIndex),
    ("Windchill", o.windChill), ("FeelsLike", o.feelsLike), ("SolarRadiation", o.solar), ("UVIndex", o.uv),
    ("Illumination", o.illumination), ("Rain", o.rain), ("RainHour", o.rain60), ("RainDay", o.rainDay),
    ("RainMonth", o.rainMonth), ("RainYear", o.rainYear), ("Strikes", Float.ofNat o.strikes)]

/-- The two values of an auxiliary sensor. -/
def sensorMessages (lead : String) (s : AuxSensor Float) : List Message :=
  [⟨s!"{lead}/{s.location}/Temperature", Decimal.floatText 2 s.temperature⟩,
    ⟨s!"{lead}/{s.location}/Humidity", Decimal.floatText 2 s.humidity⟩]

/-- All messages of an observation, in the order in which they are sent. -/
def messages (lead : String) (o : Snapshot) : List Message :=
  (mainValues o).map (fun v => ⟨s!"{lead}/{v.1}", Decimal.floatText 2 v.2⟩) ++
    ⟨s!"{lead}/Trend", o.trend.text⟩ :: o.sensors.flatMap (sensorMessages lead)

/-- Whether a broker takes messages for a topic: it may hold no wildcard. -/
def isTopic (topic : String) : Bool := !topic.toList.any fun c => c == '+' || c == '#'

end WeatherRelay.Mqtt
