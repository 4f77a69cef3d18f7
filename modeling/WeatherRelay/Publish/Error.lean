import WeatherRelay.Files
import WeatherRelay.Publish.Mqtt

/-!
# Why a publisher fails
-/

namespace WeatherRelay

/-- Why no connection comes about. -/
inductive LinkError where
  | unresolved
  | refused
  | unreachable
  | timedOut (address : String)
  | badPort
  | badAddress
  | nulInName
deriving DecidableEq, Repr

/-- The wording of an error. -/
def LinkError.text : LinkError → String
  | .unresolved => "failed to lookup address information: Name or service not known"
  | .refused => "Connection refused (os error 111)"
  | .unreachable => "Network is unreachable (os error 101)"
  | .timedOut address => s!"connect to {address} timed out"
  | .badPort => "invalid port value"
  | .badAddress => "invalid socket address"
  | .nulInName => FileError.nulInName.text

/-- What is wrong with the configuration of a destination. -/
inductive Misconfiguration where
  | noCallsign
  | broker (e : Mqtt.BrokerError)
  | noDatabase
  | noLogFile
  | noPublisher (service : String)
deriving DecidableEq, Repr

/-- The wording of an error. -/
def Misconfiguration.text : Misconfiguration → String
  | .noCallsign => "CWOP needs a station callsign in name"
  | .broker e => e.text
  | .noDatabase => "sqlite needs a database path in host"
  | .noLogFile => "logfile needs a file path in host"
  | .noPublisher service => s!"no publisher for '{service}'"

/-- Why a start or a delivery failed. A web address is told where one could be formed; a column where a table refused a
row that has no value for it. -/
inductive PublishError where
  | http (url : Option String)
  | status (service : String) (code : Nat)
  | topic
  | database
  | emptyColumn (table column : String)
  | file (e : FileError)
  | link (e : LinkError)
  | config (m : Misconfiguration)
  | notInitialized (service : String)
deriving DecidableEq, Repr

/-- The wording of an error. -/
def PublishError.message : PublishError → String
  | .http _ => "HTTP error"
  | .status service code => s!"{service} returned status {code}"
  | .topic => "MQTT error"
  | .database => "SQLite error"
  | .emptyColumn table column => s!"SQLite error: NOT NULL constraint failed: {table}.{column}"
  | .file e => s!"IO error: {e.text}"
  | .link e => s!"IO error: {e.text}"
  | .config m => s!"invalid destination config: {m.text}"
  | .notInitialized service => s!"{service} is not initialized"

instance : ToString PublishError := ⟨PublishError.message⟩

end WeatherRelay
