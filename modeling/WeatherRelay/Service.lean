import WeatherRelay.Config
import WeatherRelay.Dispatch.Dispatcher
import WeatherRelay.Intake
import WeatherRelay.Registry

/-!
# The service

Datagrams come in on one side and deliveries go out on the other; the queue of snapshots is all that joins the two. A
run begins with the rain gauge and the destinations, takes events in any order, and ends by taking what the queue still
holds, waiting for what runs, and ending every publisher.
-/

namespace WeatherRelay

/-- A delivery under way: when it began, in milliseconds of the service's clock, and what its update
said would become of it. -/
structure Task (ε : Type) where
  delivery : Delivery Snapshot
  begun : Nat
  fate : Fate ε

namespace Task

variable {ε : Type}

/-- When it ends by itself, if it does. -/
def due (t : Task ε) : Option Nat := t.fate.left.map (t.begun + ·)

/-- Whether it has come to its end at a time. -/
def isDue (t : Task ε) (clock : Nat) : Bool := t.due.any (· ≤ clock)

/-- What becomes of it from a time on. -/
def fateAt (t : Task ε) (clock : Nat) : Fate ε := { t.fate with left := t.due.map (· - clock) }

end Task

/-- The service while it runs, with the milliseconds since its start and the deliveries under way. -/
structure Service (P ε : Type) where
  intake : Intake
  registry : Registry P
  dispatcher : Dispatcher Snapshot
  clock : Nat := 0
  tasks : List (Task ε) := []

/-- Something that happens to the service: a datagram is received at a moment, the dispatcher takes a snapshot from the
queue, or milliseconds pass. -/
inductive Event where
  | datagram (bytes : ByteArray) (now : Moment) (utc : Moment := now)
  | turn
  | elapse (milliseconds : Nat)

/-- Why the service does not run. -/
inductive ServiceError where
  | config (e : ConfigError)
  | bind (address : Net.Address)

/-- The wording for an address that is not one of this host. -/
def notLocal : String := "Cannot assign requested address (os error 99)"

/-- The wording of an error. -/
def ServiceError.message : ServiceError → String
  | .config e => s!"config error: {e.message}"
  | .bind address => s!"failed to bind {address.text}: {notLocal}"

namespace Service

variable {P S ε : Type}

/-- The bytes of a datagram that are looked at. -/
def maxDatagram : Nat := 4096

/-- The line about the end of receiving. -/
def shutdownLine : LogLine := .info "[Ingest] shutdown signal received, exiting"

/-- What becomes of a delivery that runs. -/
def fateOf (s : Service P ε) (x : Delivery Snapshot) : Fate ε :=
  ((s.tasks.find? (·.delivery.isSame x)).map (·.fateAt s.clock)).getD .never

/-- What a delivery does at its end, and what is logged of it. -/
def conclude [ToString ε] (b : Behavior P S ε) (s : Service P ε) (x : Delivery Snapshot)
    (ending : Ending ε) : Action S Unit := do
  s.registry.finishAt b x ending
  Scene.noteAs .dispatcher (ending.lines x)

/-- A delivery ends by itself, if it runs. -/
def settle [ToString ε] (b : Behavior P S ε) (s : Service P ε) (x : Delivery Snapshot) (ending : Ending ε) :
    Action S (Service P ε) := do
  let r := s.dispatcher.settle x ending
  r.ended.forM fun y => s.conclude b y ending
  return { s with dispatcher := r.dispatcher, tasks := s.tasks.filter fun t => !t.delivery.isSame x }

/-- Begins a delivery; one that ends at once has ended. -/
def begin [ToString ε] (b : Behavior P S ε) (s : Service P ε) (x : Delivery Snapshot) : Action S (Service P ε) := do
  let (registry, fate) ← s.registry.updateAt b x.load x.place
  let s := { s with registry, tasks := s.tasks ++ [⟨x, s.clock, fate⟩] }
  if fate.left = some 0 then s.settle b x fate.ending else return s

/-- A cycle with a snapshot. -/
def dispatch [ToString ε] (b : Behavior P S ε) (s : Service P ε) (o : Snapshot) : Action S (Service P ε) := do
  let r := s.dispatcher.dispatch s.registry.targets o
  Scene.noteAs .dispatcher r.log
  r.started.foldlM (begin b) { s with dispatcher := r.dispatcher }

/-- Cycles with several snapshots. -/
def dispatchAll [ToString ε] (b : Behavior P S ε) (s : Service P ε) (os : List Snapshot) : Action S (Service P ε) :=
  os.foldlM (dispatch b) s

/-- Takes in a datagram. -/
def receive (s : Service P ε) (bytes : ByteArray) : Action S (Service P ε) := do
  let scene ← get
  let r := s.intake.receive scene.files (bytes.extract 0 maxDatagram) scene.now
  set { scene.noting r.log with files := r.files }
  return { s with intake := r.intake }

/-- The dispatcher takes the oldest snapshot of the queue. -/
def turn [ToString ε] (b : Behavior P S ε) (s : Service P ε) : Action S (Service P ε) :=
  match s.intake.queue.take with
  | (none, _) => return s
  | (some o, queue) => dispatch b { s with intake := { s.intake with queue } } o

/-- Time passes, and deliveries whose time has come end one after another. -/
def elapse [ToString ε] (b : Behavior P S ε) (s : Service P ε) (milliseconds : Nat) : Action S (Service P ε) :=
  let clock := s.clock + milliseconds
  let due := (s.tasks.filter (·.isDue clock)).mergeSort fun t u => (t.fateAt 0).isSooner (u.fateAt 0)
  due.foldlM (fun s t => s.settle b t.delivery t.fate.ending) { s with clock }

/-- What an event does. -/
def step [ToString ε] (b : Behavior P S ε) (s : Service P ε) : Event → Action S (Service P ε)
  | .datagram bytes now utc => do
    modify fun scene => { scene with now, utc }
    s.receive bytes
  | .turn => s.turn b
  | .elapse milliseconds => s.elapse b milliseconds

/-- What events do one after another. -/
def steps [ToString ε] (b : Behavior P S ε) (s : Service P ε) (events : List Event) : Action S (Service P ε) :=
  events.foldlM (step b) s

/-- The service at the beginning of a run. -/
def start [ToString ε] (b : Behavior P S ε) (create : ServiceKind → P) (c : Config) : Action S (Service P ε) := do
  let scene ← get
  let (gauge, gaugeLines) := Rainfall.Gauge.openAt .json scene.files c.rainfallFile scene.now
  let (registry, registryLines) := Registry.ofConfig create c.station c.services
  Scene.note (gaugeLines ++ registryLines)
  let (registry, ready) ← registry.init b
  Scene.note [.info s!"[App] {ready} of {registry.length} destination(s) ready"]
  Scene.noteAs .dispatcher [Dispatcher.startedLine registry.targets]
  return {
    intake :=
      { station := { info := c.station, places := c.places, zone := scene.zone, gauge }
        queue := { depth := c.queueDepth } }
    registry
    dispatcher := .ofLimit c.maxInFlight c.graceSeconds }

/-- Nothing more comes in: the dispatcher takes what the queue still holds. -/
def close [ToString ε] (b : Behavior P S ε) (s : Service P ε) : Action S (Service P ε) := do
  Scene.note [shutdownLine]
  s.dispatchAll b s.intake.queue.items

/-- Waits for the deliveries under way, up to the grace period, and stops the rest: what those would do at
their ends is left undone. -/
def drain [ToString ε] (b : Behavior P S ε) (s : Service P ε) : Action S (Service P ε) := do
  let plan := s.dispatcher.drain s.fateOf
  Scene.noteAs .dispatcher plan.opening
  plan.ended.forM fun x => do
    s.conclude b x.1 x.2.ending
    Scene.noteAs .dispatcher (x.2.ending.joined x.1).lines
  Scene.noteAs .dispatcher plan.closing
  return { s with dispatcher := plan.dispatcher, clock := s.clock + plan.waited, tasks := [] }

/-- Ends the publishers, and says whether that has come to its end. -/
def leave (b : Behavior P S ε) (s : Service P ε) : Action S Bool := do
  Scene.noteAs .dispatcher [s.dispatcher.stoppedLine]
  let (_, isDone) ← s.registry.cleanup b
  if isDone then Scene.note [.info "[App] stopped"]
  return isDone

/-- Ends a run, and says whether it has come to its end. -/
def stop [ToString ε] (b : Behavior P S ε) (s : Service P ε) : Action S Bool := do
  let s ← s.close b
  let s ← s.drain b
  s.leave b

/-- A run from its beginning to its end, if it comes to that. -/
def run [ToString ε] (b : Behavior P S ε) (create : ServiceKind → P) (c : Config) (events : List Event) : Action S Bool := do
  let s ← start b create c
  let s ← s.steps b events
  s.stop b

/-- The address to listen at, if it is one of this host. -/
def address (isLocal : Net.Host → Bool) (c : Config) : Except ServiceError Net.Address :=
  match c.address? with
  | none => .error (.config (.listen c.listen))
  | some a => if isLocal a.host then .ok a else .error (.bind a)

/-- A run that listens at the configured address, and whether it has come to its end. -/
def listenAndRun [ToString ε] (b : Behavior P S ε) (create : ServiceKind → P) (isLocal : Net.Host → Bool) (c : Config)
    (events : List Event) : Action S (Except ServiceError Bool) := do
  match address isLocal c with
  | .error e => return .error e
  | .ok a =>
    Scene.note [.info s!"[Ingest] listening on {a.text}"]
    return .ok (← run b create c events)

end Service

end WeatherRelay
