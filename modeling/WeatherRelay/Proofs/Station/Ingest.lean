import WeatherRelay.Proofs.Rainfall.Gauge
import WeatherRelay.Station

/-!
# Ingesting without files

The files that a station saves its rain in have no bearing on the station. What a packet makes of it, and the
snapshot that the packet may complete, are functions of the station, the packet and the moment of its receipt
alone (`after`, `snapshot?`).
-/

namespace WeatherRelay

/-- Whether a packet has readings that a cycle needs. -/
def Packet.isNeeded : Packet → Bool
  | .air _ rows => !rows.isEmpty
  | .sky _ rows => !rows.isEmpty
  | _ => false

namespace Station

/-- The station after a sky reading. -/
def afterSky (s : Station) (r : SkyRow) (now : Moment) : Station :=
  let s := s.applyWeather r
  let accumulator := s.gauge.accumulator.add r.rain now
  { s with live := (s.live.withRain (accumulator.totalsAt now)).derive, gauge := { s.gauge with accumulator } }

/-- The station after the readings of a packet. -/
def afterReadings (s : Station) (p : Packet) (now : Moment) : Station :=
  match p with
  | .air _ rows => rows.foldl applyAir s
  | .sky _ rows => rows.foldl (fun s r => s.afterSky r now) s
  | .rapidWind w => s.applyWind w
  | .tower serial rows => rows.foldl (fun s r => (s.applyTower serial r).1) s
  | _ => s

/-- The station when a packet has been applied and was not yet noted by the trigger. -/
def applied (s : Station) (p : Packet) (now : Moment) : Station := (s.rollDay now.date).1.afterReadings p now

/-- The station after a packet. -/
def after (s : Station) (p : Packet) (now : Moment) : Station :=
  let s := s.applied p now
  if p.isNeeded then { s with trigger := (s.trigger.mark p.kind).2 } else s

/-- The snapshot that a packet completes, if it does. -/
def snapshot? (s : Station) (p : Packet) (now : Moment) : Option Snapshot :=
  let s := s.applied p now
  if p.isNeeded && (s.trigger.mark p.kind).1 then some s.live else none

theorem applySky_station (s : Station) (fs : Files) (r : SkyRow) (now : Moment) :
    (s.applySky fs r now).station = s.afterSky r now := by
  have hgauge := Rainfall.Gauge.add_fst .json (s.applyWeather r).gauge fs r.rain now
  simp only [applySky, afterSky]
  rcases hadd : (s.applyWeather r).gauge.add .json fs r.rain now with ⟨gauge, files, log⟩
  rw [hadd] at hgauge
  simp only at hgauge
  rw [hgauge]

/-- A loop over readings that hands files and log on besides changes the station as the loop without them does. -/
theorem foldl_station {β : Type} (apply : Step → β → Step) (change : Station → β → Station)
    (h : ∀ done r, (apply done r).station = change done.station r) (rows : List β) (done : Step) :
    (rows.foldl apply done).station = rows.foldl change done.station := by
  induction rows generalizing done with
  | nil => rfl
  | cons r rest ih =>
    rw [List.foldl_cons, List.foldl_cons, ih, h]

/-- The files have no bearing on what a packet's readings change. -/
theorem apply_eq (s : Station) (fs : Files) (p : Packet) (now : Moment) :
    (s.apply fs p now).1 = p.isNeeded ∧ (s.apply fs p now).2.station = s.afterReadings p now := by
  cases p with
  | air serial rows => exact ⟨rfl, rfl⟩
  | sky serial rows =>
    refine ⟨rfl, ?_⟩
    exact foldl_station _ _ (fun done r => applySky_station done.station done.files r now) rows _
  | rapidWind w => exact ⟨rfl, rfl⟩
  | tower serial rows =>
    refine ⟨rfl, ?_⟩
    exact foldl_station _ (fun s r => (s.applyTower serial r).1) (fun _ _ => rfl) rows _
  | _ => exact ⟨rfl, rfl⟩

/-- The files have no bearing on the station after a packet, nor on the snapshot. -/
theorem ingest_eq (s : Station) (fs : Files) (p : Packet) (now : Moment) :
    (s.ingest fs p now).1 = s.snapshot? p now ∧ (s.ingest fs p now).2.station = s.after p now := by
  obtain ⟨hneeded, hstation⟩ := (s.rollDay now.date).1.apply_eq fs p now
  have happlied : s.applied p now = ((s.rollDay now.date).1.apply fs p now).2.station := hstation.symm
  simp only [ingest, conclude, snapshot?, after, happlied, ← hneeded]
  cases ((s.rollDay now.date).1.apply fs p now).1 <;> exact ⟨rfl, rfl⟩

/-- A snapshot is the live observation as the packet leaves it. -/
theorem live_of_snapshot? {s : Station} {p : Packet} {now : Moment} {o : Snapshot} (h : s.snapshot? p now = some o) :
    o = (s.after p now).live := by
  simp only [snapshot?] at h
  split at h
  · obtain rfl := Option.some.inj h
    simp only [after]
    split <;> rfl
  · nomatch h

end Station

end WeatherRelay
