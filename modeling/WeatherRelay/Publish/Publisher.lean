import WeatherRelay.Publish.Aprs
import WeatherRelay.Publish.Outside
import WeatherRelay.Publish.Readout
import WeatherRelay.Registry

/-!
# Publishers

What a destination of each kind does at the start, with an observation, and at the end. The time that a publisher takes
is left out: its deliveries end as soon as they are started, or never.
-/

namespace WeatherRelay

/-- A session with a broker: whether the broker was reached, and if not, how many messages wait for it. -/
structure Session where
  isReached : Bool
  waiting : Nat := 0
deriving DecidableEq, Repr

/-- A publisher with what it keeps between deliveries. -/
inductive Publisher where
  | upload (service : Upload.Service) (averager : Averager Float)
  | report (averager : Averager Float)
  | topics (session : Option Session)
  | table (database : Option Database)
  | logFile
  | dashboard

/-- The observation in the units that a destination is configured for. -/
def DestinationConfig.inUnits (c : DestinationConfig) (o : Snapshot) : Snapshot := if c.metric then o else o.toImperial .all

namespace Session

/-- The messages that wait for a broker at most. -/
def room : Nat := 64

/-- Publishes messages up to the first one with a topic that is none. While the broker is not reached the messages wait,
and a delivery for which there is no room never ends. -/
def publish (s : Session) (messages : List Mqtt.Message) : Action Outside (Session × Fate PublishError) := do
  let good := messages.takeWhile fun m => Mqtt.isTopic m.topic
  let result := if good.length < messages.length then .failed .topic else .done
  if s.isReached then
    good.forM fun m => Outside.act (.published m)
    return (s, .now result)
  else if s.waiting + good.length ≤ room then return ({ s with waiting := s.waiting + good.length }, .now result)
  else return ({ s with waiting := room }, .never)

end Session

namespace Publisher

/-- A publisher of a web service. -/
def ofService (s : Upload.Service) : Publisher := .upload s (.ofMinutes (s.every.getD 1))

/-- A fresh publisher of a kind. -/
def ofKind : ServiceKind → Publisher
  | .weatherUnderground => ofService Upload.weatherUnderground
  | .weatherBug => ofService Upload.weatherBug
  | .personalWeatherStation => ofService Upload.pwsWeather
  | .cwop => .report (.ofMinutes Aprs.every)
  | .mqtt => .topics none
  | .sqlite => .table none
  | .logFile => .logFile
  | .display => .dashboard

/-- Joins the broker that is configured, under a user's name if there is one. -/
def join (c : DestinationConfig) : Action Outside (Except PublishError Publisher) := do
  match Mqtt.broker c.host with
  | .error e => return .error (.config (.broker e))
  | .ok (host, port) =>
    Scene.note [.info s!"[MQTT] connecting to {host}:{port}"]
    let reach ← Outside.dial host port
    let given (s : String) : Option String := if s.isEmpty then none else some s
    if reach = .accepted then
      Outside.act (.joined (given c.name) (if c.name.isEmpty then none else given c.password))
    return .ok (.topics (some { isReached := reach = .accepted }))

/-- Opens the database that is configured. -/
def openTable (c : DestinationConfig) : Action Outside (Except PublishError Publisher) := do
  let name := Text.trim c.host
  if name.isEmpty then return .error (.config .noDatabase)
  match ← Outside.openTable name with
  | .error e => return .error e
  | .ok database =>
    Scene.note [.info s!"[Database] opened {c.host}"]
    return .ok (.table (some database))

/-- Makes a publisher ready. -/
def init (p : Publisher) (c : DestinationConfig) : Action Outside (Except PublishError Publisher) :=
  match p with
  | .upload .. => return .ok p
  | .report _ => return if Text.isAllBlank c.name then .error (.config .noCallsign) else .ok p
  | .topics _ => join c
  | .table _ => openTable c
  | .logFile => return if Text.isAllBlank c.host then .error (.config .noLogFile) else .ok p
  | .dashboard => return .ok p

/-- Sends what is due to a web service. -/
def sendUpload (s : Upload.Service) (averager : Averager Float) (c : DestinationConfig) (o : Snapshot) :
    Action Outside (Publisher × Fate PublishError) := do
  let scene ← get
  let (due, averager) := s.prepare c averager o scene.now.minute
  let result ← match due with
    | none => pure (.ok ())
    | some due =>
      match s.address? c due scene.utc with
      | none => pure (.error (.http none))
      | some u => Outside.fetch s.name u
  return (.upload s averager, .now (.ofResult result))

/-- Sends what is due to the weather observers' network. -/
def sendReport (averager : Averager Float) (c : DestinationConfig) (station : StationInfo) (o : Snapshot) :
    Action Outside (Publisher × Fate PublishError) := do
  let scene ← get
  let (due, averager) := averager.offer .unitVectors (o.toImperial .keepPressure) scene.now.minute
  match due with
  | none => return (.report averager, .now .done)
  | some due =>
    let server := Aprs.server c.host
    let result ← Outside.send server (Aprs.login c.name ++ Aprs.packet c.name station due scene.utc)
    if result matches .ok () then Scene.note [.info s!"[CWOP] report sent to {server}"]
    return (.report averager, .now (.ofResult result))

/-- Delivers an observation. -/
def update (p : Publisher) (c : DestinationConfig) (station : StationInfo) (o : Snapshot) :
    Action Outside (Publisher × Fate PublishError) :=
  match p with
  | .upload service averager => sendUpload service averager c o
  | .report averager => sendReport averager c station o
  | .topics none => return (p, .now (.failed (.notInitialized "MQTT")))
  | .topics (some session) => do
    let (session, fate) ← session.publish (Mqtt.messages (Mqtt.lead c.extra) (c.inUnits o))
    return (.topics (some session), fate)
  | .table none => return (p, .now (.failed (.notInitialized "sqlite")))
  | .table (some database) => do
    let result ← Outside.insertRow database station.name (c.inUnits o)
    return (p, .now (.ofResult result))
  | .logFile => do
    let line := LogFile.line (c.inUnits o) c.metric (← get).now
    let result ← Outside.appendText (Text.trim c.host) line
    return (p, .now (.ofResult result))
  | .dashboard => do
    Outside.act (.shown (Dashboard.clear ++ Dashboard.render station (c.inUnits o) c.metric))
    return (p, .now .done)

/-- Ends a publisher: a session with a broker and a database are closed. To leave a session is one more message, so
where there is no room for it that never returns. -/
def cleanup : Publisher → Action Outside (Option Publisher)
  | .topics (some session) => do
    if session.isReached then
      Outside.act .left
      return some (.topics none)
    else if session.waiting < Session.room then return some (.topics none)
    else return none
  | .table _ => return some (.table none)
  | p => return some p

/-- What publishers do, as destinations use them. -/
def behavior : Behavior Publisher Outside PublishError where
  init := init
  update := update
  cleanup := cleanup
  missing service := .config (.noPublisher service)

end Publisher

end WeatherRelay
