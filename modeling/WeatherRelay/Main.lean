import Std.Async.Select
import Std.Async.Signal
import Std.Async.UDP
import Std.Time
import WeatherRelay.Program
import WeatherRelay.Publish.Publisher

/-!
# The program

The outer layer: arguments, the clock, files, the socket that datagrams arrive at, and the terminal. What is done
with them is decided by `Program` and `Service`. No connection is made from here, so publishers that need the
network find it unreachable.
-/

namespace WeatherRelay.Main

/-- A service with its own publishers. -/
abbrev Relay := Service Publisher PublishError

/-- What the service acts on here. -/
abbrev World := Scene Outside

/-- The zone of the clocks here; universal time where none is known. -/
def localZone : IO Zone :=
  (do
    let rules ← Std.Time.Database.defaultGetLocalZoneRules
    return .ofShifts fun seconds =>
      (rules.timezoneAt (.ofSecondsSinceUnixEpoch (.ofInt seconds))).offset.second.val : IO _) <|> pure .utc

/-- The present moment as the clocks of a zone show it. -/
def now (zone : Zone) : IO Moment := do
  let seconds := (← Std.Time.Timestamp.now).toSecondsSinceUnixEpoch.val
  return (Moment.ofEpoch? (seconds + zone.ahead seconds)).getD Moment.start1970

/-- What stands at a path. -/
def nodeOnDisk? (path : List String) : IO (Option FileNode) :=
  (do
    if ← (← IO.FS.realPath (Files.fullText path)).isDir then return some .directory
    else return some (.file (← IO.FS.readBinFile (Files.fullText path))) : IO _) <|> pure none

/-- Puts what stands on the way along a path among the files. -/
def remember (fs : Files) (text : String) : IO Files := do
  let mut fs := fs
  let mut here := fs.origin text
  for step in Files.steps text do
    if step = ".." then here := here.dropLast
    else if step ≠ "." then
      here := here ++ [step]
      if let some n ← nodeOnDisk? here then fs := fs.put here n
  return fs

/-- Writes the files that have changed. -/
def store (before after : Files) : IO Unit :=
  after.nodes.forM fun
    | (path, .file content) =>
      match before.node? path with
      | some (.file old) => if old == content then pure () else IO.FS.writeBinFile (Files.fullText path) content
      | _ => IO.FS.writeBinFile (Files.fullText path) content
    | _ => pure ()

/-- Carries out an action: its log lines go to the standard error, its screens to the standard output. -/
def carryOut {α : Type} (a : Action Outside α) (p : World) : IO (α × World) := do
  let (result, after) := a.run { p with now := ← now p.zone, utc := ← now .utc }
  after.lines.forM fun l => IO.eprintln l.render
  store p.files after.files
  after.outside.effects.forM fun
    | .shown screen => do
      IO.print screen
      (← IO.getStdout).flush
    | _ => pure ()
  return (result, { after with log := [], outside := { after.outside with effects := [] } })

/-- Tells how a call has ended. -/
def finish (e : Ended) : IO UInt32 := do
  e.output.forM IO.println
  e.report.forM IO.eprintln
  return e.status.toUInt32

/-- The address of a socket. -/
def socketAddress? (a : Net.Address) : Option Std.Net.SocketAddress :=
  let host := String.ofList a.host.text
  match a.host with
  | .v4 _ => (Std.Net.IPv4Addr.ofString host).map fun addr => .v4 { addr, port := a.port.toUInt16 }
  | .v6 .. => (Std.Net.IPv6Addr.ofString host).map fun addr => .v6 { addr, port := a.port.toUInt16 }

/-- Binds a socket. -/
def bind? (a : Net.Address) : IO (Option Std.Async.UDP.Socket) :=
  match socketAddress? a with
  | none => return none
  | some address => (do
      let socket ← Std.Async.UDP.Socket.mk
      socket.bind address
      return some socket : IO _) <|> pure none

/-- Takes in datagrams until the interrupt. -/
partial def serve (socket : Std.Async.UDP.Socket) (signal : Std.Async.Signal.Waiter) (s : Relay) (p : World) :
    IO (Relay × World) := do
  let next ← (Std.Async.Selectable.one #[
    ⟨socket.recvSelector 4096, fun r => pure (some r.1)⟩, ⟨signal.selector, fun _ => pure none⟩] : Std.Async.Async _).block
  match next with
  | none => return (s, p)
  | some bytes =>
    let (s, p) ← carryOut (s.steps Publisher.behavior [.datagram bytes (← now p.zone) (← now .utc), .turn]) p
    serve socket signal s p

/-- Does not come to an end. -/
partial def waitForever : IO UInt32 := do
  IO.sleep 1000
  waitForever

/-- Runs with a configuration. -/
def runWith (c : Config) (p : World) : IO UInt32 := do
  let socket ← match Service.address (fun _ => true) c with
    | .ok a => bind? a
    | .error _ => pure none
  let mut files := p.files
  for path in c.rainfallFile :: c.services.map fun d => Text.trim d.host do
    files ← remember files path
  let (begun, p) ← carryOut (Program.listen Publisher.behavior Publisher.ofKind (fun _ => socket.isSome) c) { p with files }
  match begun, socket with
  | .error e, _ => finish e
  | .ok _, none => return 1
  | .ok s, some socket =>
    let signal ← Std.Async.Signal.Waiter.mk .sigint false
    let (s, p) ← serve socket signal s p
    match ← carryOut (Program.interrupt Publisher.behavior s) p with
    | (some e, _) => finish e
    | (none, _) => waitForever

end WeatherRelay.Main

open WeatherRelay in
/-- Publishes the observations of a weather station until it is interrupted. -/
def main (arguments : List String) : IO UInt32 := do
  match CommandLine.parse arguments with
  | .error e => Main.finish (Program.early e)
  | .ok options =>
    let here := (← IO.currentDir).toString
    let files ← Main.remember { working := Files.steps here } options.config
    let zone ← Main.localZone
    let p : Main.World :=
      { now := ← Main.now zone, utc := ← Main.now .utc, zone, files, outside := { network := { reach := fun _ _ => .unreachable } } }
    let (loaded, p) ← Main.carryOut (Program.load options) p
    match loaded with
    | .error e => Main.finish e
    | .ok c => Main.runWith c p
