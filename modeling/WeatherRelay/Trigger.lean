import WeatherRelay.Packet

/-!
# When a set of readings is complete

A cycle needs an air packet and a sky packet, in either order. The packet that completes the set fires
and begins the next one.
-/

namespace WeatherRelay

/-- Which of the two kinds were seen since the last firing. -/
structure Trigger where
  air : Bool := false
  sky : Bool := false
deriving DecidableEq, Repr

namespace Trigger

/-- Notes a packet; says whether it fires. -/
def mark (t : Trigger) (kind : PacketKind) : Bool × Trigger :=
  let air := t.air || kind == .primaryEnvironment
  let sky := t.sky || kind == .windRainSummary
  if air && sky then (true, {}) else (false, { air, sky })

/-- Whether one of the two kinds was seen. -/
def isPending (t : Trigger) : Bool := t.air || t.sky

end Trigger

end WeatherRelay
