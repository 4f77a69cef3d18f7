import WeatherRelay.Calendar
import WeatherRelay.Comfort
import WeatherRelay.Observation
import WeatherRelay.Rainfall.Gauge
import WeatherRelay.Trigger
import WeatherRelay.Wind

/-!
# The station

Packets are applied one after another to the live observation and to the trackers that feed it. A packet that completes
a set of readings yields a snapshot: a copy of the live observation as it is then.
-/

namespace WeatherRelay

/-- Who and where the station is; the elevation is in metres. -/
structure StationInfo where
  name : String := ""
  location : String := ""
  latitude : Float := 0.0
  longitude : Float := 0.0
  elevation : Float := 0.0

/-- The places of auxiliary sensors by their serial numbers. -/
abbrev SensorPlaces := List (String × String)

/-- The place of a sensor; of several entries the last one counts, and without one the serial number
stands for the place. -/
def SensorPlaces.placeOf (places : SensorPlaces) (serial : String) : String :=
  ((places.reverse.find? (·.1 == serial)).map (·.2)).getD serial

/-- The live observation, its trackers, the zone that times are shown in, and the calendar day that its
highs and lows are of. -/
structure Station where
  info : StationInfo := {}
  places : SensorPlaces := []
  zone : Zone := .utc
  live : Snapshot := .empty
  gust : GustTracker := {}
  gauge : Rainfall.Gauge := {}
  pressure : PressureHistory := {}
  trigger : Trigger := {}
  day : Option Date := none

/-- What ingesting has changed: the station, the files, and the log. -/
structure Step where
  station : Station
  files : Files := {}
  log : List LogLine := []

/-- The time of a reading as the clocks of a zone show it, while the calendar reaches that far. -/
def timestampOf (zone : Zone) (epoch : Int64) : Option String :=
  (Moment.ofEpoch? epoch.toInt).map fun _ => zone.text epoch.toInt

/-- The higher of a high and a reading. -/
def raise (high : Option Float) (x : Float) : Option Float := some ((high.map (Scalar.larger · x)).getD x)

/-- The lower of a low and a reading. -/
def lower (low : Option Float) (x : Float) : Option Float := some ((low.map (Scalar.smaller · x)).getD x)

namespace Observation

/-- Computes anew what is derived from temperature, humidity and wind. -/
def derive (o : Snapshot) : Snapshot :=
  { o with
    dewPoint := Comfort.dewPoint o.temperature o.humidity
    heatIndex := Comfort.heatIndex o.temperature o.humidity
    windChill := Comfort.windChill o.temperature o.windSpeed
    feelsLike := Comfort.feelsLike o.temperature o.windSpeed o.humidity }

/-- Shows a gust. -/
def withGust (o : Snapshot) (g : Gust) : Snapshot := { o with gustSpeed := g.speed, gustDirection := g.direction }

/-- Shows rain totals. -/
def withRain (o : Snapshot) (t : Rainfall.Totals Float) : Snapshot :=
  { o with
    rainMinute := t.windows.minute
    rainHour := t.windows.hour
    rainDay := t.windows.day
    rainMonth := t.windows.month
    rainYear := t.windows.year
    rain60 := t.last60
    rain24 := t.last24 }

/-- Forgets all highs and lows. -/
def clearExtremes (o : Snapshot) : Snapshot :=
  { o with high := none, low := none, sensors := o.sensors.map fun s => { s with high := none, low := none } }

end Observation

/-- A sensor after a reading. -/
def AuxSensor.read (s : AuxSensor Float) (zone : Zone) (r : TowerRow) : AuxSensor Float :=
  { s with
    temperature := r.temperature
    humidity := r.humidity
    timestamp := timestampOf zone r.epoch
    high := raise s.high r.temperature
    low := lower s.low r.temperature }

namespace Station

/-- What an air reading changes once the history has taken in its pressure. -/
def showAir (s : Station) (r : AirRow) (pressure : PressureHistory) : Station :=
  let live := { s.live with
    timestamp := timestampOf s.zone r.epoch
    pressure := r.pressure
    seaLevelPressure := Comfort.seaLevelPressure r.pressure s.info.elevation
    temperature := r.temperature
    humidity := r.humidity
    strikes := r.strikes
    strikeDistance := r.strikeDistance
    high := raise s.live.high r.temperature
    low := lower s.live.low r.temperature
    trend := pressure.trend }
  { s with live := live.derive, pressure }

/-- Applies an air reading. -/
def applyAir (s : Station) (r : AirRow) : Station := s.showAir r (s.pressure.record ⟨r.epoch, r.pressure⟩)

/-- The same in a build with overflow checks. -/
def applyAirChecked (s : Station) (r : AirRow) : Unwinding Station := do
  return s.showAir r (← s.pressure.recordChecked ⟨r.epoch, r.pressure⟩)

/-- What a sky reading changes apart from its rain. -/
def applyWeather (s : Station) (r : SkyRow) : Station :=
  let gust := s.gust.observe ⟨r.gustSpeed, r.windDirection⟩
  let live := { s.live with
    illumination := r.illumination
    uv := r.uv
    solar := r.solar
    windSpeed := r.windSpeed
    windDirection := r.windDirection
    windCardinal := Compass.cardinal r.windDirection
    rain := r.rain }
  { s with live := live.withGust gust.held, gust }

/-- Applies a sky reading that was received at a moment. -/
def applySky (s : Station) (fs : Files) (r : SkyRow) (now : Moment) : Step :=
  let s := s.applyWeather r
  let (gauge, files, log) := s.gauge.add .json fs r.rain now
  let live := (s.live.withRain (gauge.accumulator.totalsAt now)).derive
  { station := { s with live, gauge }, files, log }

/-- Applies an instant wind sample, which can only raise the gust. -/
def applyWind (s : Station) (w : WindSample) : Station :=
  let gust := s.gust.hold ⟨w.speed, w.direction⟩
  { s with live := s.live.withGust gust.held, gust }

/-- The sensors with one that was not heard before. -/
def meet (s : Station) (serial : String) : Station × List LogLine :=
  if (s.live.sensor? serial).isSome then (s, [])
  else
    let place := s.places.placeOf serial
    ({ s with live := { s.live with sensors := s.live.sensors ++ [.fresh serial place] } },
      [.info s!"[Station] new auxiliary sensor {serial} ({place})"])

/-- Changes the first record of a sensor. -/
def changeSensor (serial : String) (f : AuxSensor Float → AuxSensor Float) :
    List (AuxSensor Float) → List (AuxSensor Float)
  | [] => []
  | s :: rest => if s.id == serial then f s :: rest else s :: changeSensor serial f rest

/-- Applies a reading of an auxiliary sensor. -/
def applyTower (s : Station) (serial : String) (r : TowerRow) : Station × List LogLine :=
  let (s, log) := s.meet serial
  ({ s with live := { s.live with sensors := changeSensor serial (·.read s.zone r) s.live.sensors } }, log)

/-- Highs and lows begin anew with a calendar day. -/
def rollDay (s : Station) (today : Date) : Station × List LogLine :=
  match s.day with
  | none => ({ s with day := some today }, [])
  | some day =>
    if day = today then (s, [])
    else
      ({ s with live := s.live.clearExtremes, day := some today },
        [.info s!"[Station] new day {today.text}, resetting highs and lows"])

/-- Applies the readings of a packet; says whether there were any that a publish cycle needs. -/
def apply (s : Station) (fs : Files) (p : Packet) (now : Moment) : Bool × Step :=
  match p with
  | .air _ rows => (!rows.isEmpty, { station := rows.foldl applyAir s, files := fs })
  | .sky _ rows =>
    (!rows.isEmpty, rows.foldl (fun done r =>
      let next := done.station.applySky done.files r now
      { next with log := done.log ++ next.log }) { station := s, files := fs })
  | .rapidWind w => (false, { station := s.applyWind w, files := fs })
  | .tower serial rows =>
    (false, rows.foldl (fun done r =>
      let next := done.station.applyTower serial r
      { done with station := next.1, log := done.log ++ next.2 }) { station := s, files := fs })
  | _ => (false, { station := s, files := fs })

/-- The same in a build with overflow checks. No other difference of what packets tell can be too large: those of rain
are of minutes and hours of the calendar, unless they were read from a file. -/
def applyChecked (s : Station) (fs : Files) (p : Packet) (now : Moment) : Unwinding (Bool × Step) :=
  match p with
  | .air _ rows => do return (!rows.isEmpty, { station := ← rows.foldlM applyAirChecked s, files := fs })
  | p => return s.apply fs p now

/-- What comes of a packet whose readings are applied. The snapshot is there when it completes a set of readings. -/
def conclude (p : Packet) (dayLog : List LogLine) (applied : Bool × Step) : Option Snapshot × Step :=
  let done := applied.2
  let log := dayLog ++ done.log
  if applied.1 then
    let (fired, trigger) := done.station.trigger.mark p.kind
    let station := { done.station with trigger }
    (if fired then some station.live else none, { done with station, log })
  else (none, { done with log })

/-- Takes in a packet that was received at a moment. -/
def ingest (s : Station) (fs : Files) (p : Packet) (now : Moment) : Option Snapshot × Step :=
  let (s, dayLog) := s.rollDay now.date
  conclude p dayLog (s.apply fs p now)

/-- The same in a build with overflow checks. -/
def ingestChecked (s : Station) (fs : Files) (p : Packet) (now : Moment) : Unwinding (Option Snapshot × Step) := do
  let (s, dayLog) := s.rollDay now.date
  return conclude p dayLog (← s.applyChecked fs p now)

end Station

end WeatherRelay
