import Mathlib.Data.List.DropRight
import WeatherRelay.Proofs.Station.Ingest

/-!
# Stations and what they have taken in

A station takes in packets one after another, at moments in any order, and the files may be different ones every time.
Besides the roll of the day and the note of the trigger, a packet changes what its readings change, one after another.
So whatever every reading keeps, and the roll of the day too, holds of every station that packets lead to
(`history_induct`). Such an invariant may speak of all readings so far and of those of the current day: since the date
of receipt last changed.
-/

namespace WeatherRelay

/-- A reading of a packet. -/
inductive Reading where
  | air (row : AirRow)
  | sky (row : SkyRow)
  | wind (sample : WindSample)
  | tower (serial : String) (row : TowerRow)

/-- The readings of a packet, in order. -/
def Packet.readings : Packet → List Reading
  | .air _ rows => rows.map .air
  | .sky _ rows => rows.map .sky
  | .rapidWind w => [.wind w]
  | .tower serial rows => rows.map (.tower serial)
  | _ => []

/-- A packet, the moment of its receipt, and the files as they are then. -/
structure Arrival where
  packet : Packet
  time : Moment
  files : Files := {}

namespace Arrival

/-- The readings of all packets, in the order of their receipt. -/
def readings (arrivals : List Arrival) : List Reading := arrivals.flatMap (·.packet.readings)

/-- The latest packets that were received on a day. -/
def latestOn (day : Date) (arrivals : List Arrival) : List Arrival := arrivals.rtakeWhile fun a => a.time.date = day

/-- The packets of the current day: the latest that were received on the date of the last. -/
def current (arrivals : List Arrival) : List Arrival :=
  match arrivals.getLast? with
  | none => []
  | some last => latestOn last.time.date arrivals

theorem readings_snoc (arrivals : List Arrival) (a : Arrival) :
    readings (arrivals ++ [a]) = readings arrivals ++ a.packet.readings := by
  simp [readings]

theorem current_snoc (arrivals : List Arrival) (a : Arrival) :
    current (arrivals ++ [a]) = latestOn a.time.date arrivals ++ [a] := by
  have hon : latestOn a.time.date (arrivals ++ [a]) = latestOn a.time.date arrivals ++ [a] :=
    List.rtakeWhile_concat_pos _ _ _ (decide_eq_true rfl)
  rw [current, List.getLast?_concat]
  exact hon

/-- The day goes on when the last packet was received on it, and begins with nothing otherwise. -/
theorem latestOn_snoc (day : Date) (arrivals : List Arrival) (a : Arrival) :
    latestOn day (arrivals ++ [a]) = if a.time.date = day then current (arrivals ++ [a]) else [] := by
  by_cases h : a.time.date = day
  · rw [if_pos h, current_snoc, h]
    exact List.rtakeWhile_concat_pos _ _ _ (decide_eq_true h)
  · rw [if_neg h]
    exact List.rtakeWhile_concat_neg _ _ _ (by simpa using h)

end Arrival

/-- What became of a packet: the snapshot that it completed, if it did, and the station after it. -/
structure Ingested where
  arrival : Arrival
  snapshot? : Option Snapshot
  station : Station

namespace Station

/-- A station that has taken nothing in, with a gauge that may hold rain from before. -/
def opened (info : StationInfo) (gauge : Rainfall.Gauge) (places : SensorPlaces) (zone : Zone := .utc) : Station :=
  { info, gauge, places, zone }

/-- What becomes of a packet. -/
def ingested (s : Station) (a : Arrival) : Ingested :=
  let (snapshot?, done) := s.ingest a.files a.packet a.time
  { arrival := a, snapshot?, station := done.station }

/-- The station after packets. -/
def ingestAll (s : Station) (arrivals : List Arrival) : Station :=
  arrivals.foldl (fun s a => (s.ingested a).station) s

/-- What became of packets, one after another. -/
def history (s : Station) : List Arrival → List Ingested
  | [] => []
  | a :: rest => s.ingested a :: (s.ingested a).station.history rest

/-! ## Reading by reading -/

/-- The station after a reading that was received at a moment. -/
def read (s : Station) (now : Moment) : Reading → Station
  | .air r => s.applyAir r
  | .sky r => s.afterSky r now
  | .wind w => s.applyWind w
  | .tower serial r => (s.applyTower serial r).1

/-- The readings of a packet change the station one after another. -/
theorem afterReadings_eq (s : Station) (p : Packet) (now : Moment) :
    s.afterReadings p now = p.readings.foldl (fun s x => s.read now x) s := by
  cases p with
  | air serial rows =>
    rw [Packet.readings, List.foldl_map]
    rfl
  | sky serial rows =>
    rw [Packet.readings, List.foldl_map]
    rfl
  | tower serial rows =>
    rw [Packet.readings, List.foldl_map]
    rfl
  | _ => rfl

/-- The records of auxiliary sensors with one that may be new. -/
def sensorsWith (places : SensorPlaces) (sensors : List (AuxSensor Float)) (serial : String) : List (AuxSensor Float) :=
  if (sensors.find? (·.id == serial)).isSome = true then sensors else sensors ++ [.fresh serial (places.placeOf serial)]

/-- Meeting a sensor changes the records of sensors, which alone have a bearing on it with the places. -/
theorem meet_station (s : Station) (serial : String) :
    (s.meet serial).1 = { s with live := { s.live with sensors := sensorsWith s.places s.live.sensors serial } } := by
  by_cases h : (s.live.sensors.find? (·.id == serial)).isSome = true
  · rw [meet, Observation.sensor?, sensorsWith, if_pos h, if_pos h]
  · rw [meet, Observation.sensor?, sensorsWith, if_neg h, if_neg h]

/-- A reading of an auxiliary sensor changes the records of sensors, which alone have a bearing on it with the places. -/
theorem applyTower_station (s : Station) (serial : String) (r : TowerRow) :
    (s.applyTower serial r).1 = { s with
      live := { s.live with
        sensors := changeSensor serial (·.read s.zone r) (sensorsWith s.places s.live.sensors serial) } } := by
  have hread : (s.applyTower serial r).1 = { (s.meet serial).1 with
      live := { (s.meet serial).1.live with
        sensors := changeSensor serial (·.read (s.meet serial).1.zone r) (s.meet serial).1.live.sensors } } := rfl
  rw [hread, meet_station]

/-- A reading of an auxiliary sensor changes records of sensors and nothing else. -/
theorem applyTower_eq (s : Station) (serial : String) (r : TowerRow) :
    ∃ sensors, (s.applyTower serial r).1 = { s with live := { s.live with sensors } } :=
  ⟨_, s.applyTower_station serial r⟩

/-- A reading changes neither who and where the station is, nor its day, nor what the trigger has seen. -/
theorem read_frame (s : Station) (now : Moment) (x : Reading) :
    (s.read now x).info = s.info ∧ ((s.read now x).places = s.places ∧ (s.read now x).zone = s.zone) ∧
      (s.read now x).day = s.day ∧ (s.read now x).trigger = s.trigger := by
  cases x with
  | tower serial r =>
    obtain ⟨sensors, htower⟩ := s.applyTower_eq serial r
    rw [read, htower]
    exact ⟨rfl, ⟨rfl, rfl⟩, rfl, rfl⟩
  | _ => exact ⟨rfl, ⟨rfl, rfl⟩, rfl, rfl⟩

/-- The readings of a packet change neither the station's day nor what the trigger has seen. -/
theorem afterReadings_frame (s : Station) (p : Packet) (now : Moment) :
    (s.afterReadings p now).day = s.day ∧ (s.afterReadings p now).trigger = s.trigger := by
  rw [afterReadings_eq]
  induction p.readings generalizing s with
  | nil => exact ⟨rfl, rfl⟩
  | cons x rest ih =>
    obtain ⟨-, -, hday, htrigger⟩ := s.read_frame now x
    obtain ⟨hdays, htriggers⟩ := ih (s.read now x)
    exact ⟨hdays.trans hday, htriggers.trans htrigger⟩

/-- A packet is applied, and then the trigger may take note of it. -/
theorem after_eq (s : Station) (p : Packet) (now : Moment) :
    s.after p now = { s.applied p now with
      trigger := if p.isNeeded then ((s.applied p now).trigger.mark p.kind).2 else (s.applied p now).trigger } := by
  simp only [after]
  split <;> rfl

/-! ## Days -/

/-- The first day, and a day that goes on, change no highs and lows. -/
theorem rollDay_of_same (s : Station) (today : Date) (h : ∀ day ∈ s.day, day = today) :
    (s.rollDay today).1 = { s with day := some today } := by
  obtain ⟨info, places, zone, live, gust, gauge, pressure, trigger, day⟩ := s
  cases day with
  | none => rfl
  | some day =>
    obtain rfl := h day rfl
    simp [rollDay]

/-- Another day begins without highs and lows. -/
theorem rollDay_of_other (s : Station) (day today : Date) (hday : s.day = some day) (h : day ≠ today) :
    (s.rollDay today).1 = { s with live := s.live.clearExtremes, day := some today } := by
  simp [rollDay, hday, h]

theorem rollDay_frame (s : Station) (today : Date) :
    (s.rollDay today).1.trigger = s.trigger ∧ (s.rollDay today).1.day = some today := by
  unfold rollDay
  split
  · exact ⟨rfl, rfl⟩
  · rename_i day hday
    split
    · rename_i h
      exact ⟨rfl, hday.trans (congrArg some h)⟩
    · exact ⟨rfl, rfl⟩

/-- After a packet the day is the date of its receipt. -/
theorem day_after (s : Station) (p : Packet) (now : Moment) : (s.after p now).day = some now.date := by
  obtain ⟨-, hrolled⟩ := s.rollDay_frame now.date
  obtain ⟨hread, -⟩ := (s.rollDay now.date).1.afterReadings_frame p now
  rw [after_eq]
  exact hread.trans hrolled

/-! ## Packet by packet -/

/-- The files have no bearing on what becomes of a packet. -/
theorem ingested_eq (s : Station) (a : Arrival) :
    (s.ingested a).snapshot? = s.snapshot? a.packet a.time ∧ (s.ingested a).station = s.after a.packet a.time :=
  s.ingest_eq a.files a.packet a.time

/-- What a packet returns is the live observation as the packet leaves it. -/
theorem live_of_ingested {s : Station} {a : Arrival} {snapshot : Snapshot} (h : (s.ingested a).snapshot? = some snapshot) :
    snapshot = (s.ingested a).station.live := by
  obtain ⟨hsnapshot, hstation⟩ := s.ingested_eq a
  rw [hstation]
  exact live_of_snapshot? (hsnapshot.symm.trans h)

theorem ingestAll_snoc (s : Station) (arrivals : List Arrival) (a : Arrival) :
    s.ingestAll (arrivals ++ [a]) = ((s.ingestAll arrivals).ingested a).station := by
  simp [ingestAll]

theorem history_snoc (s : Station) (arrivals : List Arrival) (a : Arrival) :
    s.history (arrivals ++ [a]) = s.history arrivals ++ [(s.ingestAll arrivals).ingested a] := by
  induction arrivals generalizing s with
  | nil => rfl
  | cons b rest ih => exact congrArg (s.ingested b :: ·) (ih (s.ingested b).station)

/-- Whatever became of some packet became of it after the packets before. -/
theorem exists_of_mem_history {s : Station} {arrivals : List Arrival} {o : Ingested} (h : o ∈ s.history arrivals) :
    ∃ before a later, arrivals = before ++ a :: later ∧ o = (s.ingestAll before).ingested a := by
  induction arrivals generalizing s with
  | nil => exact absurd h List.not_mem_nil
  | cons b rest ih =>
    rcases List.mem_cons.mp h with rfl | h
    · exact ⟨[], b, rest, rfl, rfl⟩
    · obtain ⟨before, a, later, rfl, ho⟩ := ih h
      exact ⟨b :: before, a, later, rfl, ho⟩

/-- A station's day is the date on which its last packet was received. -/
theorem day_ingestAll {s : Station} (hday : s.day = none) (arrivals : List Arrival) :
    (s.ingestAll arrivals).day = arrivals.getLast?.map (·.time.date) := by
  induction arrivals using List.reverseRecOn with
  | nil => exact hday
  | append_singleton arrivals a _ =>
    obtain ⟨-, hstation⟩ := (s.ingestAll arrivals).ingested_eq a
    rw [ingestAll_snoc, hstation, day_after, List.getLast?_concat]
    rfl

/-! ## What all packets keep -/

section

variable {P : List Reading → List Reading → Station → Prop}

/-- What every reading keeps all readings of a packet keep. -/
theorem reads_induct (now : Moment)
    (read : ∀ all today (s : Station) x, P all today s → P (all ++ [x]) (today ++ [x]) (s.read now x))
    {all today : List Reading} {s : Station} (h : P all today s) (xs : List Reading) :
    P (all ++ xs) (today ++ xs) (xs.foldl (fun s x => s.read now x) s) := by
  induction xs generalizing all today s with
  | nil => simpa using h
  | cons x rest ih => simpa using ih (read all today s x h)

/-- An invariant of all readings and of those of the current day. It has to hold at the beginning, to be kept by every
reading, to be kept when highs and lows begin anew, and to say nothing of the trigger and of the date. -/
theorem history_induct {s : Station} (hday : s.day = none) (begin : P [] [] s)
    (read : ∀ all today (s : Station) now x, P all today s → P (all ++ [x]) (today ++ [x]) (s.read now x))
    (newDay : ∀ all today (s : Station), P all today s → P all [] { s with live := s.live.clearExtremes })
    (frame : ∀ all today (s : Station) trigger day, P all today s → P all today { s with trigger, day })
    (arrivals : List Arrival) :
    P (Arrival.readings arrivals) (Arrival.readings (Arrival.current arrivals)) (s.ingestAll arrivals) := by
  induction arrivals using List.reverseRecOn with
  | nil => exact begin
  | append_singleton arrivals a ih =>
    have hdate := day_ingestAll hday arrivals
    obtain ⟨-, hstation⟩ := (s.ingestAll arrivals).ingested_eq a
    -- the packet before, if there was one, says whether this one's day goes on or begins
    have hrolled : P (Arrival.readings arrivals) (Arrival.readings (Arrival.latestOn a.time.date arrivals))
        ((s.ingestAll arrivals).rollDay a.time.date).1 := by
      rcases List.eq_nil_or_concat arrivals with rfl | ⟨earlier, b, rfl⟩
      · rw [rollDay_of_same _ _ (by simp [hdate])]
        exact frame _ _ _ (s.ingestAll []).trigger _ ih
      · rw [List.concat_eq_append] at hdate ih ⊢
        rw [List.getLast?_concat] at hdate
        rw [Arrival.latestOn_snoc]
        by_cases hb : b.time.date = a.time.date
        · rw [if_pos hb, rollDay_of_same _ _ (by simp [hdate, hb])]
          exact frame _ _ _ (s.ingestAll (earlier ++ [b])).trigger _ ih
        · rw [if_neg hb, rollDay_of_other _ _ _ hdate hb]
          exact frame _ _ _ (s.ingestAll (earlier ++ [b])).trigger _ (newDay _ _ _ ih)
    have hread := reads_induct a.time (fun all today t x => read all today t a.time x) hrolled a.packet.readings
    rw [ingestAll_snoc, hstation, after_eq, applied, afterReadings_eq, Arrival.current_snoc, Arrival.readings_snoc,
      Arrival.readings_snoc]
    exact frame _ _ _ _ _ hread

end

end Station

end WeatherRelay
