import WeatherRelay.Config
import WeatherRelay.Dispatch.Dispatcher
import WeatherRelay.Scene
import WeatherRelay.ServiceKind
import WeatherRelay.Text.Visible

/-!
# Destinations

Every configured destination with its publisher, in the order of the configuration. What a publisher does is given as a
`Behavior`, so that what holds of destinations holds whatever their publishers do. Whether a destination is enabled
only ever changes to no.
-/

namespace WeatherRelay

/-- What publishers do: `P` is what one keeps between deliveries, `S` what they act on, `ε` why they fail.

A delivery begins with `update`, which tells its fate, and when it has ended by itself comes `finish`; one that is
stopped before has no such end. What an update hands on to a thread of its own cannot be stopped, so that is done with
its beginning. A `cleanup` may never return. -/
structure Behavior (P S ε : Type) where
  init : P → DestinationConfig → Action S (Except ε P)
  update : P → DestinationConfig → StationInfo → Snapshot → Action S (P × Fate ε)
  finish : P → DestinationConfig → StationInfo → Snapshot → Ending ε → Action S Unit := fun _ _ _ _ _ => return ()
  cleanup : P → Action S (Option P)
  missing : String → ε

/-- A destination: how it is configured, whose observations it gets, whether it takes part, and its publisher, if
its service is known. -/
structure Destination (P : Type) where
  config : DestinationConfig
  station : StationInfo
  isEnabled : Bool
  publisher : Option P

/-- The destinations in the order of the configuration. -/
abbrev Registry (P : Type) := List (Destination P)

namespace Destination

variable {P S ε : Type}

/-- The tag that names the service. -/
def name (d : Destination P) : String := d.config.service

/-- The kind of the service, if it is known. -/
def kind? (d : Destination P) : Option ServiceKind := ServiceKind.ofTag? d.config.service

/-- The destination of a configuration; one whose service is not known stays without a publisher and takes no part. -/
def ofConfig (create : ServiceKind → P) (station : StationInfo) (config : DestinationConfig) : Destination P × List LogLine :=
  match ServiceKind.ofTag? config.service with
  | some kind => (⟨config, station, config.enabled, some (create kind)⟩, [])
  | none =>
    (⟨config, station, false, none⟩,
      [.warn s!"[Registry] unknown service '{config.service}', destination will not be used"])

/-- A destination with a publisher of its own. -/
def withPublisher (config : DestinationConfig) (station : StationInfo) (p : P) : Destination P :=
  ⟨config, station, config.enabled, some p⟩

/-- Takes a destination out. -/
def disable (d : Destination P) : Destination P := { d with isEnabled := false }

/-- The publisher of a destination that takes part. -/
def active? (d : Destination P) : Option P := if d.isEnabled then d.publisher else none

/-- Makes the publisher ready, if the destination takes part; a failure takes the destination out.
Says whether it is ready. -/
def init [ToString ε] (b : Behavior P S ε) (d : Destination P) : Action S (Destination P × Bool) := do
  match d.active? with
  | none => return (d, false)
  | some p =>
    match ← Scene.byPublisher (b.init p d.config) with
    | .ok p =>
      Scene.note [.info s!"[Registry] {d.name} ready"]
      return ({ d with publisher := some p }, true)
    | .error e =>
      Scene.note [.error s!"[Registry] {d.name} init failed, disabling: {e}"]
      return (d.disable, false)

/-- Begins to deliver an observation. -/
def update (b : Behavior P S ε) (d : Destination P) (o : Snapshot) : Action S (Destination P × Fate ε) := do
  match d.publisher with
  | none => return (d, .now (.failed (b.missing d.name)))
  | some p =>
    let (p, fate) ← Scene.byPublisher (b.update p d.config d.station o)
    return ({ d with publisher := some p }, fate)

/-- The delivery of an observation ends by itself. -/
def finish (b : Behavior P S ε) (d : Destination P) (o : Snapshot) (ending : Ending ε) : Action S Unit :=
  match d.publisher with
  | none => return ()
  | some p => Scene.byPublisher (b.finish p d.config d.station o ending)

/-- Ends the publisher; nothing comes of it if that never returns. -/
def cleanup (b : Behavior P S ε) (d : Destination P) : Action S (Option (Destination P)) := do
  match d.publisher with
  | none => return some d
  | some p => return (← Scene.byPublisher (b.cleanup p)).map fun p => { d with publisher := some p }

/-- A destination as text. -/
def text (d : Destination P) : String :=
  let kind := match d.kind? with
    | none => "None"
    | some k => "Some(" ++ k.name ++ ")"
  s!"Destination \x7b service: {Text.quoted d.config.service}, kind: {kind}, enabled: {d.isEnabled} \x7d"

end Destination

namespace Registry

variable {P S ε : Type}

/-- The destinations of a configuration. -/
def ofConfig (create : ServiceKind → P) (station : StationInfo) (services : List DestinationConfig) :
    Registry P × List LogLine :=
  let made := services.map (Destination.ofConfig create station)
  (made.map (·.1), made.flatMap (·.2))

/-- How many destinations take part. -/
def enabledCount (r : Registry P) : Nat := r.countP (·.isEnabled)

/-- The destinations that take part, from a place on. -/
def targetsFrom (place : Nat) : Registry P → List Target
  | [] => []
  | d :: rest => if d.isEnabled then ⟨place, d.name⟩ :: targetsFrom (place + 1) rest else targetsFrom (place + 1) rest

/-- The destinations that take part. -/
def targets (r : Registry P) : List Target := r.targetsFrom 0

/-- Makes all destinations ready that take part, and counts those that are. -/
def init [ToString ε] (b : Behavior P S ε) : Registry P → Action S (Registry P × Nat)
  | [] => return ([], 0)
  | d :: rest => do
    let (d, isReady) ← d.init b
    let (rest, ready) ← init b rest
    return (d :: rest, ready + if isReady then 1 else 0)

/-- Begins to deliver an observation to the destination at a place. -/
def updateAt (b : Behavior P S ε) (o : Snapshot) : Nat → Registry P → Action S (Registry P × Fate ε)
  | _, [] => return ([], .never)
  | 0, d :: rest => do
    let (d, fate) ← d.update b o
    return (d :: rest, fate)
  | place + 1, d :: rest => do
    let (rest, fate) ← updateAt b o place rest
    return (d :: rest, fate)

/-- A delivery ends by itself. -/
def finishAt (b : Behavior P S ε) (r : Registry P) (x : Delivery Snapshot) (ending : Ending ε) : Action S Unit :=
  match r[x.place]? with
  | none => return ()
  | some d => d.finish b x.load ending

/-- Ends the publishers one after another, and says whether that has come to its end: it goes no further than to
one that never returns. -/
def cleanup (b : Behavior P S ε) : Registry P → Action S (Registry P × Bool)
  | [] => return ([], true)
  | d :: rest => do
    match ← d.cleanup b with
    | none => return (d :: rest, false)
    | some d =>
      let (rest, isDone) ← cleanup b rest
      return (d :: rest, isDone)

/-- Takes out the destinations with a name. -/
def disable (name : String) (r : Registry P) : Registry P := r.map fun d => if d.name = name then d.disable else d

end Registry

end WeatherRelay
