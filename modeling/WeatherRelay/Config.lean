import WeatherRelay.Net.Address
import WeatherRelay.Station
import WeatherRelay.Text.Basic
import WeatherRelay.Yaml.Reading

/-!
# Configuration

What the service is told: who the station is, where to listen, how many deliveries may run, which destinations there are
and where auxiliary sensors stand. Everything has a default; a configuration is used only if it passes the gate.
-/

namespace WeatherRelay

/-- A destination as it is configured. -/
structure DestinationConfig where
  service : String := ""
  enabled : Bool := true
  host : String := ""
  name : String := ""
  password : String := ""
  extra : String := ""
  metric : Bool := false
deriving DecidableEq, Repr

/-- Where an auxiliary sensor stands. -/
structure SensorPlace where
  serial : String
  location : String
deriving DecidableEq, Repr

/-- A configuration. -/
structure Config where
  station : StationInfo := {}
  listen : String := "0.0.0.0:50222"
  rainfallFile : String := "rainfall.json"
  graceSeconds : Nat := 5
  maxInFlight : Nat := 64
  queueDepth : Nat := 4
  services : List DestinationConfig := []
  mapping : List SensorPlace := []

/-- Why there is no configuration. -/
inductive ConfigError where
  | unreadable (path : String) (cause : FileError)
  | malformed
  | listen (address : String)
  | grace (seconds : Nat)
  | bounds
  | unnamedService (index : Nat)
deriving DecidableEq, Repr

/-- The wording of an error. -/
def ConfigError.message : ConfigError → String
  | .unreadable path cause => s!"failed to read {path}: {cause.text}"
  | .malformed => "Parse error"
  | .listen address => s!"invalid listen address '{address}'"
  | .grace seconds => s!"shutdown_grace_secs {seconds} exceeds 300"
  | .bounds => "max_in_flight and queue_depth must be at least 1"
  | .unnamedService index => s!"service #{index} has no service name"

namespace Config

open Yaml

/-- The longest time in seconds that deliveries may be waited for at the end. -/
def maxGrace : Nat := 300

/-- The fields of a structure with their readers. -/
structure Source where
  document : Document
  found : List (String × Node)

/-- The fields of a node. -/
def Source.of? (d : Document) (known : List String) (n : Node) : Option Source := (d.fields? known n).map fun f => ⟨d, f⟩

/-- A field, or what it is when it is not written. -/
def Source.get? {β : Type} (s : Source) (name : String) (absent : β) (read : Document → Node → Option β) : Option β :=
  match s.found.find? (·.1 == name) with
  | none => some absent
  | some f => read s.document f.2

/-- Reads a text. -/
def text? (d : Document) (n : Node) : Option String := d.text? n

/-- Reads a natural. -/
def natural? (d : Document) (n : Node) : Option Nat := (d.untyped? "int" n).bind natural64?

/-- Reads a double. -/
def float? (d : Document) (n : Node) : Option Float := (d.untyped? "float" n).bind double?

/-- Reads a truth value. -/
def bool? (d : Document) (n : Node) : Option Bool := (d.untyped? "bool" n).bind boolean?

/-- Reads a list. -/
def list? {β : Type} (read : Document → Node → Option β) (d : Document) (n : Node) : Option (List β) :=
  (d.items? n).bind (·.mapM (read d))

/-- Reads the station. -/
def station? (d : Document) (n : Node) : Option StationInfo := do
  let s ← Source.of? d ["name", "location", "latitude", "longitude", "elevation_m"] n
  return {
    name := ← s.get? "name" "" text?
    location := ← s.get? "location" "" text?
    latitude := ← s.get? "latitude" 0.0 float?
    longitude := ← s.get? "longitude" 0.0 float?
    elevation := ← s.get? "elevation_m" 0.0 float? }

/-- Reads a destination. -/
def destination? (d : Document) (n : Node) : Option DestinationConfig := do
  let s ← Source.of? d ["service", "enabled", "host", "name", "password", "extra", "metric"] n
  return {
    service := ← s.get? "service" "" text?
    enabled := ← s.get? "enabled" true bool?
    host := ← s.get? "host" "" text?
    name := ← s.get? "name" "" text?
    password := ← s.get? "password" "" text?
    extra := ← s.get? "extra" "" text?
    metric := ← s.get? "metric" false bool? }

/-- Reads the place of a sensor, which has no defaults. -/
def place? (d : Document) (n : Node) : Option SensorPlace := do
  let s ← Source.of? d ["serial_number", "location"] n
  let need (name : String) : Option String := (s.get? name none fun d n => (d.text? n).map some).join
  return { serial := ← need "serial_number", location := ← need "location" }

/-- Reads a configuration. -/
def config? (d : Document) (n : Node) : Option Config := do
  let s ← Source.of? d
    ["station", "listen", "rainfall_file", "shutdown_grace_secs", "max_in_flight", "queue_depth", "services", "mapping"] n
  return {
    station := ← s.get? "station" {} station?
    listen := ← s.get? "listen" "0.0.0.0:50222" text?
    rainfallFile := ← s.get? "rainfall_file" "rainfall.json" text?
    graceSeconds := ← s.get? "shutdown_grace_secs" 5 natural?
    maxInFlight := ← s.get? "max_in_flight" 64 natural?
    queueDepth := ← s.get? "queue_depth" 4 natural?
    services := ← s.get? "services" [] (list? destination?)
    mapping := ← s.get? "mapping" [] (list? place?) }

/-- The address to listen at. -/
def address? (c : Config) : Option Net.Address := Net.Address.of? c.listen

/-- The gate: the first condition that is not met, in a fixed order. -/
def validate (c : Config) : Except ConfigError Unit :=
  if c.address?.isNone then .error (.listen c.listen)
  else if maxGrace < c.graceSeconds then .error (.grace c.graceSeconds)
  else if c.maxInFlight = 0 ∨ c.queueDepth = 0 then .error .bounds
  else
    match c.services.findIdx? fun s => Text.isAllBlank s.service with
    | some i => .error (.unnamedService i)
    | none => .ok ()

/-- The configuration that a text holds, if it passes the gate. -/
def parse (text : String) : Except ConfigError Config :=
  match (Document.of? text).bind fun d => config? d d.root with
  | none => .error .malformed
  | some c => c.validate.map fun _ => c

/-- The configuration in a file. -/
def load (fs : Files) (path : String) : Except ConfigError Config :=
  match fs.readText path with
  | .error e => .error (.unreadable path e)
  | .ok text => parse text

/-- The places of auxiliary sensors. -/
def places (c : Config) : SensorPlaces := c.mapping.map fun m => (m.serial, m.location)

end Config

end WeatherRelay
