import WeatherRelay.Proofs.Rainfall.Windows
import WeatherRelay.Proofs.Station.Sensors

/-!
# Highs and lows of the day

A high or a low is that of all readings since the date of receipt last changed, the station's own of the air readings
and a sensor's of its rows. Packets of every kind begin a day, so a sensor that was silent since has neither. The dates
may go back: a day that comes again begins anew.
-/

namespace WeatherRelay

/-- The temperature of an air reading. -/
def Reading.airTemperature? : Reading → Option Float
  | .air r => some r.temperature
  | _ => none

/-- The temperatures of the air readings, in order. -/
def airTemperatures (readings : List Reading) : List Float := readings.filterMap Reading.airTemperature?

theorem airTemperatures_snoc (readings : List Reading) (x : Reading) :
    airTemperatures (readings ++ [x]) = airTemperatures readings ++ x.airTemperature?.toList := by
  cases x <;> simp [airTemperatures, Reading.airTemperature?]

/-- The temperatures that an auxiliary sensor read, in order. -/
def towerTemperatures (serial : String) (readings : List Reading) : List Float :=
  (rowsOf serial (towerRows readings)).map (·.temperature)

/-- The latest packets of a day are the longest suffix of packets that were received on it. -/
theorem Arrival.isLongestSuffix_latestOn (day : Date) (arrivals : List Arrival) :
    Rainfall.IsLongestSuffix (fun a => a.time.date = day) (latestOn day arrivals) arrivals := by
  have h := Rainfall.isLongestSuffix_rtakeWhile (fun a : Arrival => decide (a.time.date = day)) arrivals
  refine ⟨h.isSuffix, fun a ha => of_decide_eq_true (h.all_good a ha), fun t ht hgood => ?_⟩
  exact h.longest t ht fun a ha => decide_eq_true (hgood a ha)

/-- That a station shows the high and the low of the air readings of the day. -/
def Station.HasExtremes (today : List Reading) (s : Station) : Prop :=
  s.live.high = highest (airTemperatures today) ∧ s.live.low = lowest (airTemperatures today)

namespace Station

/-- Every reading keeps the high and the low, an air reading with itself among those of the day. -/
theorem HasExtremes.read {today : List Reading} {s : Station} (h : s.HasExtremes today) (now : Moment) (x : Reading) :
    (s.read now x).HasExtremes (today ++ [x]) := by
  rw [HasExtremes, airTemperatures_snoc]
  cases x with
  | air r =>
    have hhigh : (s.applyAir r).live.high = raise s.live.high r.temperature := rfl
    have hlow : (s.applyAir r).live.low = lower s.live.low r.temperature := rfl
    rw [Station.read, hhigh, hlow, h.1, h.2, raise_highest, lower_lowest]
    exact ⟨rfl, rfl⟩
  | tower serial r =>
    obtain ⟨sensors, htower⟩ := s.applyTower_eq serial r
    rw [Station.read, htower]
    simp only [Reading.airTemperature?, Option.toList_none, List.append_nil]
    exact h
  | _ =>
    simp only [Reading.airTemperature?, Option.toList_none, List.append_nil]
    exact h

variable (info : StationInfo) (gauge : Rainfall.Gauge) (places : SensorPlaces) (zone : Zone)

theorem hasExtremes_ingestAll (arrivals : List Arrival) :
    ((opened info gauge places zone).ingestAll arrivals).HasExtremes (Arrival.readings (Arrival.current arrivals)) := by
  refine history_induct (s := opened info gauge places zone) (P := fun _ today s => s.HasExtremes today) rfl ?_ ?_ ?_ ?_ arrivals
  · exact ⟨rfl, rfl⟩
  · exact fun _ _ _ now x h => h.read now x
  · exact fun _ _ _ _ => ⟨rfl, rfl⟩
  · exact fun _ _ _ _ _ h => h

/-- The highs and lows after a packet are those of the longest suffix of the packets that were received on its date: the
station's of all its air readings, a sensor's of all its rows, and none where there is none. -/
theorem extremes_are_of_the_day (before : List Arrival) (last : Arrival) :
    let live := ((opened info gauge places zone).ingestAll (before ++ [last])).live
    let today := Arrival.latestOn last.time.date (before ++ [last])
    Rainfall.IsLongestSuffix (fun a => a.time.date = last.time.date) today (before ++ [last]) ∧
      live.high = highest (airTemperatures (Arrival.readings today)) ∧
      live.low = lowest (airTemperatures (Arrival.readings today)) ∧
      ∀ x ∈ live.sensors, x.high = highest (towerTemperatures x.id (Arrival.readings today)) ∧
        x.low = lowest (towerTemperatures x.id (Arrival.readings today)) := by
  intro live today
  have htoday : Arrival.current (before ++ [last]) = today := by
    rw [Arrival.current, List.getLast?_concat]
  have hextremes := hasExtremes_ingestAll info gauge places zone (before ++ [last])
  have htable := (tabled_ingestAll info gauge places zone (before ++ [last])).sensors_eq
  rw [htoday] at hextremes htable
  refine ⟨?_, hextremes.1, hextremes.2, ?_⟩
  · exact Arrival.isLongestSuffix_latestOn last.time.date (before ++ [last])
  · intro x hx
    obtain ⟨-, hrecord⟩ := mem_sensorTable (htable ▸ hx)
    rw [hrecord]
    exact ⟨rfl, rfl⟩

/-- An air packet with two rows, late on a day. -/
def eveningArrival : Arrival where
  packet := .air "AR-1" [⟨0, 1000.0, 20.0, 50.0, 0, 0.0⟩, ⟨0, 1000.0, 18.5, 50.0, 0, 0.0⟩]
  time := (Moment.of? 2024 6 12 23 59 0).getD default

/-- A row of an auxiliary sensor in the same minute. -/
def sensorArrival : Arrival where
  packet := .tower "ST-1" [⟨0, 12.0, 60.0⟩]
  time := eveningArrival.time

/-- An air packet after midnight. -/
def nightArrival : Arrival where
  packet := .air "AR-1" [⟨0, 1000.0, 17.5, 50.0, 0, 0.0⟩]
  time := (Moment.of? 2024 6 13 0 1 0).getD default

/-- After midnight the station has the high and the low of the new day, and a sensor that was silent since has neither. -/
theorem extremes_after_midnight :
    let live := ((opened {} {} []).ingestAll [eveningArrival, sensorArrival, nightArrival]).live
    live.high = some 17.5 ∧ live.low = some 17.5 ∧ ∃ x ∈ live.sensors, x.id = "ST-1" ∧ x.high = none ∧ x.low = none := by
  intro live
  obtain ⟨-, hhigh, hlow, hsensors⟩ := extremes_are_of_the_day {} {} [] .utc [eveningArrival, sensorArrival] nightArrival
  have hone : live.sensors.map (·.id) = ["ST-1"] := by decide +kernel
  obtain ⟨x, hx, hid⟩ := List.mem_map.mp (hone ▸ List.mem_singleton_self "ST-1")
  obtain ⟨hxhigh, hxlow⟩ := hsensors x hx
  rw [hid] at hxhigh hxlow
  refine ⟨hhigh.trans (by decide +kernel), hlow.trans (by decide +kernel), x, hx, hid, ?_, ?_⟩
  · exact hxhigh.trans (by decide +kernel)
  · exact hxlow.trans (by decide +kernel)

end Station

end WeatherRelay
