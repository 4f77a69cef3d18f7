import WeatherRelay.Queue
import WeatherRelay.Station

/-!
# Taking in datagrams

Each datagram is decoded and applied to the station; a snapshot that it completes is offered to the queue. Nothing waits
for the taker of the queue, and a datagram that is no packet changes nothing.
-/

namespace WeatherRelay

/-- The station with the queue that its snapshots go to. -/
structure Intake where
  station : Station
  queue : Queue Snapshot

/-- What a datagram did: whether a snapshot was handed over, how the files are, and what was logged. -/
structure Received where
  queued : Bool
  intake : Intake
  files : Files
  log : List LogLine

namespace Intake

/-- A datagram that is no packet. -/
def refuse (i : Intake) (fs : Files) (e : PacketError) : Received :=
  ⟨false, i, fs, [.warn s!"[Ingest] dropping malformed packet: {e.message}"]⟩

/-- A packet that the station has taken in; the snapshot that it may have completed is offered to the queue. -/
def handOver (i : Intake) (ingested : Option Snapshot × Step) : Received :=
  let done := ingested.2
  let i := { i with station := done.station }
  match ingested.1 with
  | none => ⟨false, i, done.files, done.log⟩
  | some s =>
    let (outcome, queue) := i.queue.offer s
    let i := { i with queue }
    match outcome with
    | .accepted => ⟨true, i, done.files, done.log⟩
    | .full => ⟨false, i, done.files, done.log ++ [.warn "[Ingest] dispatcher is behind, dropping this cycle"]⟩
    | .noTaker => ⟨false, i, done.files, done.log ++ [.error "[Ingest] dispatcher has stopped, dropping this cycle"]⟩

/-- Takes in a datagram that was received at a moment. -/
def receive (i : Intake) (fs : Files) (bytes : ByteArray) (now : Moment) : Received :=
  match Packet.decode bytes with
  | .error e => i.refuse fs e
  | .ok packet => i.handOver (i.station.ingest fs packet now)

/-- The same in a build with overflow checks. -/
def receiveChecked (i : Intake) (fs : Files) (bytes : ByteArray) (now : Moment) : Unwinding Received :=
  match Packet.decode bytes with
  | .error e => return i.refuse fs e
  | .ok packet => do return i.handOver (← i.station.ingestChecked fs packet now)

end Intake

end WeatherRelay
