import WeatherRelay.Json.Document
import WeatherRelay.Scalar
import WeatherRelay.Word

/-!
# Packets

What a hub broadcasts: one JSON object a datagram, with readings in arrays whose positions have fixed meanings. A packet is
decoded as a whole or refused with the first fault in reading order.
-/

namespace WeatherRelay

/-- What a packet is about. -/
inductive PacketKind where
  | primaryEnvironment
  | windRainSummary
  | instantWind
  | lightningStrike
  | rainStart
  | deviceStatus
  | hubStatus
  | auxiliary
  | unknown
deriving DecidableEq, Repr

/-- The name of a kind. -/
def PacketKind.name : PacketKind → String
  | .primaryEnvironment => "PrimaryEnvironment"
  | .windRainSummary => "WindRainSummary"
  | .instantWind => "InstantWind"
  | .lightningStrike => "LightningStrike"
  | .rainStart => "RainStart"
  | .deviceStatus => "DeviceStatus"
  | .hubStatus => "HubStatus"
  | .auxiliary => "Auxiliary"
  | .unknown => "Unknown"

/-- All kinds. -/
def PacketKind.all : List PacketKind :=
  [.primaryEnvironment, .windRainSummary, .instantWind, .lightningStrike, .rainStart, .deviceStatus, .hubStatus, .auxiliary,
    .unknown]

/-- A reading of pressure, temperature, humidity and lightning. -/
structure AirRow where
  epoch : Int64
  pressure : Float
  temperature : Float
  humidity : Float
  strikes : Nat
  strikeDistance : Float

/-- A reading of light, rain and wind. -/
structure SkyRow where
  epoch : Int64
  illumination : Float
  uv : Float
  rain : Float
  windSpeed : Float
  gustSpeed : Float
  windDirection : Float
  solar : Float

/-- A reading of an auxiliary sensor. -/
structure TowerRow where
  epoch : Int64
  temperature : Float
  humidity : Float

/-- An instant wind sample. -/
structure WindSample where
  epoch : Int64
  speed : Float
  direction : Float

/-- A decoded packet. -/
inductive Packet where
  | air (serial : String) (rows : List AirRow)
  | sky (serial : String) (rows : List SkyRow)
  | rapidWind (sample : WindSample)
  | strike (epoch : Int64) (distance energy : Float)
  | rainStart (epoch : Int64)
  | deviceStatus (serial : String)
  | hubStatus (serial : String)
  | tower (serial : String) (rows : List TowerRow)
  | unknown (type : String)

/-- Where in a packet something is missing or wrong. -/
inductive Place where
  | key (name : String)
  | row (index : Nat)
  | position (index : Nat)
deriving DecidableEq, Repr

/-- How a place is written. -/
def Place.text : Place → String
  | .key name => name
  | .row index => s!"obs[{index}]"
  | .position index => s!"[{index}]"

/-- Why a datagram is no packet. -/
inductive PacketError where
  | notJson
  | missingType
  | missingField (type : String) (place : Place)
  | notNumber (type : String) (place : Place)
deriving DecidableEq, Repr

/-- The wording of a fault. -/
def PacketError.message : PacketError → String
  | .notJson => "JSON error"
  | .missingType => "packet has no type"
  | .missingField type place => s!"{type}: missing field {place.text}"
  | .notNumber type place => s!"{type}: field {place.text} is not a number"

namespace Packet

open Json

/-- The kind of a packet. -/
def kind : Packet → PacketKind
  | .air .. => .primaryEnvironment
  | .sky .. => .windRainSummary
  | .rapidWind _ => .instantWind
  | .strike .. => .lightningStrike
  | .rainStart _ => .rainStart
  | .deviceStatus _ => .deviceStatus
  | .hubStatus _ => .hubStatus
  | .tower .. => .auxiliary
  | .unknown _ => .unknown

/-- The number at a position of an array. -/
def numberAt (type : String) (row : List Value) (index : Nat) : Except PacketError Float :=
  match row[index]? with
  | none => .error (.missingField type (.position index))
  | some v =>
    match v.float? with
    | none => .error (.notNumber type (.position index))
    | some x => .ok x

/-- The time at position 0, in whole seconds kept within 64 bits. -/
def epochOf (x : Float) : Int64 := Int64.ofInt (Scalar.truncate Word.minInt64 Word.maxInt64 x)

/-- The array under a key. -/
def arrayAt (type : String) (packet : Value) (key : String) : Except PacketError (List Value) :=
  match (packet.get? key).bind Value.items? with
  | none => .error (.missingField type (.key key))
  | some items => .ok items

/-- The items of a list of arrays, with the index of the first that is none. -/
def arrays (type : String) : Nat → List Value → Except PacketError (List (List Value))
  | _, [] => .ok []
  | index, v :: rest =>
    match v.items? with
    | none => .error (.missingField type (.row index))
    | some items => (arrays type (index + 1) rest).map (items :: ·)

/-- The rows of a report: every one is an array, before any number is looked at. -/
def rows (type : String) (packet : Value) : Except PacketError (List (List Value)) :=
  (arrayAt type packet "obs").bind (arrays type 0)

/-- The serial number of the sender, empty when the packet has none. -/
def serialOf (packet : Value) : String := ((packet.get? "serial_number").bind Value.text?).getD ""

/-- An air row uses positions 0 to 5. -/
def airRow (row : List Value) : Except PacketError AirRow := do
  let at_ := numberAt "obs_air" row
  return {
    epoch := epochOf (← at_ 0)
    pressure := ← at_ 1
    temperature := ← at_ 2
    humidity := ← at_ 3
    strikes := (Scalar.truncate 0 Word.maxNat32 (← at_ 4)).toNat
    strikeDistance := ← at_ 5 }

/-- A sky row uses positions 0 to 3, 5 to 7 and 10. -/
def skyRow (row : List Value) : Except PacketError SkyRow := do
  let at_ := numberAt "obs_sky" row
  return {
    epoch := epochOf (← at_ 0)
    illumination := ← at_ 1
    uv := ← at_ 2
    rain := ← at_ 3
    windSpeed := ← at_ 5
    gustSpeed := ← at_ 6
    windDirection := ← at_ 7
    solar := ← at_ 10 }

/-- A tower row uses positions 0, 2 and 3. -/
def towerRow (row : List Value) : Except PacketError TowerRow := do
  let at_ := numberAt "obs_tower" row
  return {
    epoch := epochOf (← at_ 0)
    temperature := ← at_ 2
    humidity := ← at_ 3 }

/-- A wind sample uses positions 0 to 2. -/
def windSample (sample : List Value) : Except PacketError WindSample := do
  let at_ := numberAt "rapid_wind" sample
  return {
    epoch := epochOf (← at_ 0)
    speed := ← at_ 1
    direction := ← at_ 2 }

/-- A strike uses positions 0 to 2. -/
def strikeOf (event : List Value) : Except PacketError Packet := do
  let at_ := numberAt "evt_strike" event
  return .strike (epochOf (← at_ 0)) (← at_ 1) (← at_ 2)

/-- The beginning of rain uses position 0. -/
def rainStartOf (event : List Value) : Except PacketError Packet := do
  return .rainStart (epochOf (← numberAt "evt_precip" event 0))

/-- The packet that a JSON value stands for. A type that is not known is no fault. -/
def ofValue (packet : Value) : Except PacketError Packet :=
  match (packet.get? "type").bind Value.text? with
  | none => .error .missingType
  | some "obs_air" => do return .air (serialOf packet) (← (← rows "obs_air" packet).mapM airRow)
  | some "obs_sky" => do return .sky (serialOf packet) (← (← rows "obs_sky" packet).mapM skyRow)
  | some "obs_tower" => do return .tower (serialOf packet) (← (← rows "obs_tower" packet).mapM towerRow)
  | some "rapid_wind" => do return .rapidWind (← windSample (← arrayAt "rapid_wind" packet "ob"))
  | some "evt_strike" => do strikeOf (← arrayAt "evt_strike" packet "evt")
  | some "evt_precip" => do rainStartOf (← arrayAt "evt_precip" packet "evt")
  | some "device_status" => .ok (.deviceStatus (serialOf packet))
  | some "hub_status" => .ok (.hubStatus (serialOf packet))
  | some other => .ok (.unknown other)

/-- The packet that a datagram holds. -/
def decode (bytes : ByteArray) : Except PacketError Packet :=
  match (Document.ofBytes? bytes).bind (·.strict?) with
  | none => .error .notJson
  | some v => ofValue v

end Packet

end WeatherRelay
