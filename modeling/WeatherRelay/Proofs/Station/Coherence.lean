import WeatherRelay.Proofs.Calendar
import WeatherRelay.Proofs.Rainfall.Run
import WeatherRelay.Proofs.Station.Firing

/-!
# The live observation is coherent

Some fields of the live observation are copies of what a tracker holds, others are computed from the fields beside them.
After every packet, whatever came before, the copies are up to date and the computed fields are those of the readings
shown; only what no reading has set yet is exempt (`Coherent`). A snapshot is taken when readings of both kinds have
come, so nothing in it is exempt.
-/

namespace WeatherRelay

namespace Rainfall

/-- Rain that was just added belongs to the period of its moment. -/
theorem Window.current_add (w : Window Float) (p : Period) (amount : Float) (now : Moment) :
    (w.add p amount now).current p now = (w.add p amount now).sum := by
  have hcovers : (w.add p amount now).covers p now = true := p.same_refl now
  rw [current, if_pos hcovers]

/-- At the moment of the last rain no window is over. -/
theorem Accumulator.totalsAt_add (a : Accumulator Float) (amount : Float) (now : Moment) :
    (a.add amount now).totalsAt now = (a.add amount now).totals := by
  have hwindows : (fun p => ((a.add amount now).windows.get p).current p now) =
      fun p => ((a.add amount now).windows.get p).sum := by
    funext p
    rw [Accumulator.add_window, Window.current_add]
  rw [totalsAt, totals, hwindows]

end Rainfall

namespace Observation

/-- The rain totals that an observation shows. -/
def rainTotals (o : Snapshot) : Rainfall.Totals Float where
  windows := ⟨o.rainMinute, o.rainHour, o.rainDay, o.rainMonth, o.rainYear⟩
  last60 := o.rain60
  last24 := o.rain24

/-- That an observation shows the gust that a tracker holds. -/
def ShowsGust (o : Snapshot) (t : GustTracker) : Prop :=
  o.gustSpeed = t.held.speed ∧ o.gustDirection = t.held.direction

/-- That the pressure at sea level is that of the pressure shown, and the trend that of a history. -/
def ShowsPressure (o : Snapshot) (info : StationInfo) (h : PressureHistory) : Prop :=
  o.seaLevelPressure = Comfort.seaLevelPressure o.pressure info.elevation ∧ o.trend = h.trend

/-- That the point of the compass is that of the wind direction shown, and that the rain totals are
those of an accumulator. -/
def ShowsSky (o : Snapshot) (a : Rainfall.Accumulator Float) : Prop :=
  o.windCardinal = Compass.cardinal o.windDirection ∧ o.rainTotals = a.totals

/-- That what is derived of temperature, humidity and wind is derived of those shown. -/
def ShowsComfort (o : Snapshot) : Prop :=
  o.dewPoint = Comfort.dewPoint o.temperature o.humidity ∧ o.heatIndex = Comfort.heatIndex o.temperature o.humidity ∧
    o.windChill = Comfort.windChill o.temperature o.windSpeed ∧
    o.feelsLike = Comfort.feelsLike o.temperature o.windSpeed o.humidity

end Observation

/-- That an observation agrees with a station's trackers and with itself: in the gust always, in what air readings set once
there was one, in what sky readings set once there was one, and in what is derived of both once there was either. -/
structure Coherent (info : StationInfo) (hadAir hadSky : Prop) (s : Station) (o : Snapshot) : Prop where
  gust : o.ShowsGust s.gust
  pressure : hadAir → o.ShowsPressure info s.pressure
  sky : hadSky → o.ShowsSky s.gauge.accumulator
  comfort : hadAir ∨ hadSky → o.ShowsComfort

namespace Coherent

variable {info : StationInfo} {hadAir hadSky : Prop} {s : Station}

/-- With less read, less is said. -/
theorem mono {air sky : Prop} {o : Snapshot} (h : Coherent info hadAir hadSky s o) (hair : air → hadAir)
    (hsky : sky → hadSky) : Coherent info air sky s o :=
  ⟨h.gust, fun had => h.pressure (hair had), fun had => h.sky (hsky had), fun had => h.comfort (had.imp hair hsky)⟩

/-! ## What each reading keeps -/

/-- An air reading sets the pressures and the trend. -/
theorem applyAir (h : Coherent info hadAir hadSky s s.live) (hinfo : s.info = info) (r : AirRow) :
    Coherent info True hadSky (s.applyAir r) (s.applyAir r).live where
  gust := h.gust
  pressure := by
    rw [← hinfo]
    exact fun _ => ⟨rfl, rfl⟩
  sky := h.sky
  comfort := fun _ => ⟨rfl, rfl, rfl, rfl⟩

/-- A sky reading sets the gust, the wind and the rain. -/
theorem afterSky (h : Coherent info hadAir hadSky s s.live) (r : SkyRow) (now : Moment) :
    Coherent info hadAir True (s.afterSky r now) (s.afterSky r now).live where
  gust := ⟨rfl, rfl⟩
  pressure := h.pressure
  sky := fun _ => ⟨rfl, s.gauge.accumulator.totalsAt_add r.rain now⟩
  comfort := fun _ => ⟨rfl, rfl, rfl, rfl⟩

/-- An instant wind sample sets the gust. -/
theorem applyWind (h : Coherent info hadAir hadSky s s.live) (w : WindSample) :
    Coherent info hadAir hadSky (s.applyWind w) (s.applyWind w).live :=
  ⟨⟨rfl, rfl⟩, h.pressure, h.sky, h.comfort⟩

/-- A reading of an auxiliary sensor sets nothing that is compared. -/
theorem applyTower (h : Coherent info hadAir hadSky s s.live) (serial : String) (r : TowerRow) :
    Coherent info hadAir hadSky (s.applyTower serial r).1 (s.applyTower serial r).1.live := by
  obtain ⟨sensors, htower⟩ := s.applyTower_eq serial r
  rw [htower]
  exact ⟨h.gust, h.pressure, h.sky, h.comfort⟩

/-- Every reading keeps the observation coherent, with itself among what was read. -/
theorem read {all : List Reading} (h : Coherent info (∃ r, .air r ∈ all) (∃ r, .sky r ∈ all) s s.live) (hinfo : s.info = info)
    (now : Moment) (x : Reading) :
    Coherent info (∃ r, .air r ∈ all ++ [x]) (∃ r, .sky r ∈ all ++ [x]) (s.read now x) (s.read now x).live := by
  cases x with
  | air r => exact (h.applyAir hinfo r).mono (fun _ => trivial) (by simp)
  | sky r => exact (h.afterSky r now).mono (by simp) fun _ => trivial
  | wind w => exact (h.applyWind w).mono (by simp) (by simp)
  | tower serial r => exact (h.applyTower serial r).mono (by simp) (by simp)

end Coherent

namespace Station

variable (info : StationInfo) (gauge : Rainfall.Gauge) (places : SensorPlaces) (zone : Zone)

/-- The live observation is coherent after any packets. -/
theorem coherent_ingestAll (arrivals : List Arrival) :
    let s := (opened info gauge places zone).ingestAll arrivals
    Coherent info (∃ r, .air r ∈ Arrival.readings arrivals) (∃ r, .sky r ∈ Arrival.readings arrivals) s s.live := by
  intro s
  refine (history_induct (s := opened info gauge places zone) (P := fun all _ s => s.info = info ∧
    Coherent info (∃ r, .air r ∈ all) (∃ r, .sky r ∈ all) s s.live) rfl ?_ ?_ ?_ ?_ arrivals).2
  · exact ⟨rfl, ⟨rfl, rfl⟩, by simp, by simp, by simp⟩
  · rintro all today s now x ⟨hinfo, h⟩
    exact ⟨(s.read_frame now x).1.trans hinfo, h.read hinfo now x⟩
  · rintro all today s ⟨hinfo, h⟩
    exact ⟨hinfo, h.gust, h.pressure, h.sky, h.comfort⟩
  · rintro all today s trigger day ⟨hinfo, h⟩
    exact ⟨hinfo, h.gust, h.pressure, h.sky, h.comfort⟩

/-- A cycle that is complete has an air reading and a sky reading before it. -/
theorem read_of_snapshot (before : List Arrival) (a : Arrival)
    (h : (((opened info gauge places zone).ingestAll before).ingested a).snapshot?.isSome = true) :
    (∃ r, .air r ∈ Arrival.readings (before ++ [a])) ∧ ∃ r, .sky r ∈ Arrival.readings (before ++ [a]) := by
  have hbefore : ∀ x ∈ sinceFiring ((opened info gauge places zone).history before), x.arrival ∈ before ++ [a] := by
    intro x hx
    obtain ⟨earlier, b, later, hsplit, rfl⟩ := exists_of_mem_history ((List.rtakeWhile_suffix _ _).subset hx)
    rw [hsplit]
    simp [ingested]
  have hread : ∀ {b : Arrival} {x : Reading}, b ∈ before ++ [a] → x ∈ b.packet.readings →
      x ∈ Arrival.readings (before ++ [a]) := fun hb hx => List.mem_flatMap.mpr ⟨_, hb, hx⟩
  -- one reading is the packet's own, the other came since the last firing
  rcases (fires_iff (noted_history rfl before) a).mp h with ⟨hair, x, hx, hsky⟩ | ⟨hsky, x, hx, hair⟩
  · obtain ⟨p, hp⟩ := Packet.exists_air hair
    obtain ⟨q, hq⟩ := Packet.exists_sky hsky
    exact ⟨⟨p, hread (by simp) hp⟩, q, hread (hbefore x hx) hq⟩
  · obtain ⟨p, hp⟩ := Packet.exists_air hair
    obtain ⟨q, hq⟩ := Packet.exists_sky hsky
    exact ⟨⟨p, hread (hbefore x hx) hp⟩, q, hread (by simp) hq⟩

/-- After any packets the live observation is coherent, and so is every snapshot that one of them returned, without
exemption: the gust shown is the one held; after an air reading the pressure at sea level and the trend, after a sky
reading the point of the compass and the rain totals, and after either what is derived of temperature, humidity and
wind, are those of the trackers and of the readings shown. -/
theorem live_observation_is_coherent (arrivals : List Arrival) :
    let start := opened info gauge places zone
    let s := start.ingestAll arrivals
    Coherent info (∃ r, .air r ∈ Arrival.readings arrivals) (∃ r, .sky r ∈ Arrival.readings arrivals) s s.live ∧
      ∀ o ∈ start.history arrivals, ∀ snapshot, o.snapshot? = some snapshot →
        Coherent info True True o.station snapshot := by
  intro start s
  refine ⟨coherent_ingestAll info gauge places zone arrivals, ?_⟩
  intro o ho snapshot hsnapshot
  obtain ⟨before, a, later, -, rfl⟩ := exists_of_mem_history ho
  obtain ⟨hair, hsky⟩ := read_of_snapshot info gauge places zone before a (Option.isSome_of_mem hsnapshot)
  have h := coherent_ingestAll info gauge places zone (before ++ [a])
  rw [ingestAll_snoc] at h
  rw [live_of_ingested hsnapshot]
  exact h.mono (fun _ => hair) fun _ => hsky

/-- An air packet and a sky packet make all of it hold: the wind is from the east, and the rain that
fell is that of the day. -/
theorem coherent_after_both_kinds :
    let s := (opened {} {} []).ingestAll [airArrival, skyArrival]
    s.live.windCardinal = "E" ∧ s.live.rainDay = 0.5 ∧ s.live.ShowsComfort := by
  intro s
  obtain ⟨hlive, -⟩ := live_observation_is_coherent {} {} [] .utc [airArrival, skyArrival]
  have hsky : ∃ r, .sky r ∈ Arrival.readings [airArrival, skyArrival] := ⟨_, List.mem_cons_of_mem _ (List.mem_singleton_self _)⟩
  obtain ⟨hcardinal, hrain⟩ := hlive.sky hsky
  have hday : s.live.rainDay = s.gauge.accumulator.totals.windows.day := congrArg (·.windows.day) hrain
  exact ⟨hcardinal.trans (by decide +kernel), hday.trans (by decide +kernel), hlive.comfort (Or.inr hsky)⟩

end Station

end WeatherRelay
