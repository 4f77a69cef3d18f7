import WeatherRelay.Proofs.Pressure
import WeatherRelay.Proofs.Station.Coherence

/-!
# The trend window of a station

A station's history takes in the pressures of its air readings, with the times that their packets give
(`pressure_ingestAll`). Those times are any that fit into 64 bits, and nothing bounds how far one is from the next. So a
difference of two may not fit (`times_apart_overflow`). A build with overflow checks then panics, and at no other packet
does it differ from a release build (`ingestAllChecked_eq`); in a release build a sample stays that is far beyond the
window (`stale_sample_stays_on_overflow`).
-/

namespace WeatherRelay

open PressureHistory (InRange)
open PressureSample (IsLatestRun)

/-- What a reading tells of the pressure. -/
def Reading.pressureSample? : Reading → Option PressureSample
  | .air r => some ⟨r.epoch, r.pressure⟩
  | _ => none

/-- What readings tell of the pressure, in order. -/
def pressureSamples (readings : List Reading) : List PressureSample := readings.filterMap Reading.pressureSample?

theorem pressureSamples_append (readings more : List Reading) :
    pressureSamples (readings ++ more) = pressureSamples readings ++ pressureSamples more :=
  List.filterMap_append

theorem pressureSamples_singleton (x : Reading) : pressureSamples [x] = x.pressureSample?.toList := by
  cases x <;> rfl

/-- The differences of times that are not before 1970 fit. -/
theorem PressureSample.fits_of_nonneg {samples : List PressureSample} (h : ∀ s ∈ samples, 0 ≤ s.epoch.toInt) :
    samples.Pairwise fun a b => Word.Fits64 (a.age b) := by
  refine List.pairwise_of_forall_mem_list fun a ha b hb => ?_
  have hfirst := h a ha
  have hsecond := h b hb
  have hbound := a.epoch.toInt_lt
  have hbound' := b.epoch.toInt_lt
  rw [Word.Fits64, Word.minInt64, Word.maxInt64, PressureSample.age]
  omega

namespace Station

/-! ## Packets in a build with overflow checks -/

/-- The station after packets, in a build with overflow checks. -/
def ingestAllChecked (s : Station) (arrivals : List Arrival) : Unwinding Station :=
  arrivals.foldlM (fun s a => return (← s.ingestChecked a.files a.packet a.time).2.station) s

/-- Air rows panic where their samples do. -/
theorem applyAirChecked_rows (s : Station) (rows : List AirRow) :
    rows.foldlM applyAirChecked s =
      (s.pressure.recordAllChecked (rows.map fun r => ⟨r.epoch, r.pressure⟩)).map fun _ => rows.foldl applyAir s := by
  induction rows generalizing s with
  | nil => rfl
  | cons r rest ih =>
    rw [List.foldlM_cons, List.map_cons, PressureHistory.recordAllChecked_cons, applyAirChecked,
      PressureHistory.recordChecked_eq]
    split
    · exact ih (s.applyAir r)
    · rfl

/-- So does a packet: nothing but its air rows tells of the pressure. -/
theorem applyChecked_eq (s : Station) (fs : Files) (p : Packet) (now : Moment) :
    s.applyChecked fs p now =
      (s.pressure.recordAllChecked (pressureSamples p.readings)).map fun _ => s.apply fs p now := by
  cases p with
  | air serial rows =>
    have hsamples : pressureSamples (Packet.air serial rows).readings = rows.map fun r => ⟨r.epoch, r.pressure⟩ := by
      rw [pressureSamples, Packet.readings, List.filterMap_map]
      exact congrFun List.filterMap_eq_map rows
    rw [applyChecked, applyAirChecked_rows, hsamples]
    cases s.pressure.recordAllChecked (rows.map fun r => ⟨r.epoch, r.pressure⟩) <;> rfl
  | _ =>
    have hnone : ∀ xs : List Reading, (∀ x ∈ xs, x.pressureSample? = none) → pressureSamples xs = [] :=
      fun xs h => List.filterMap_eq_nil_iff.mpr h
    rw [hnone _ (by simp [Packet.readings, Reading.pressureSample?])]
    rfl

theorem pressure_rollDay (s : Station) (today : Date) : (s.rollDay today).1.pressure = s.pressure := by
  unfold rollDay
  split
  · rfl
  · split <;> rfl

theorem ingestChecked_eq (s : Station) (fs : Files) (p : Packet) (now : Moment) :
    s.ingestChecked fs p now =
      (s.pressure.recordAllChecked (pressureSamples p.readings)).map fun _ => s.ingest fs p now := by
  have hingest : s.ingestChecked fs p now = ((s.rollDay now.date).1.applyChecked fs p now).bind fun applied =>
      .ok (conclude p (s.rollDay now.date).2 applied) := rfl
  rw [hingest, applyChecked_eq, pressure_rollDay]
  cases s.pressure.recordAllChecked (pressureSamples p.readings) <;> rfl

/-- A reading changes the history by what it tells. -/
theorem pressure_read (s : Station) (now : Moment) (x : Reading) :
    (s.read now x).pressure = s.pressure.recordAll x.pressureSample?.toList := by
  cases x with
  | tower serial r =>
    obtain ⟨sensors, htower⟩ := s.applyTower_eq serial r
    rw [read, htower]
    rfl
  | _ => rfl

/-- So does a packet. -/
theorem pressure_ingested (s : Station) (a : Arrival) :
    (s.ingested a).station.pressure = s.pressure.recordAll (pressureSamples a.packet.readings) := by
  have hreadings : ∀ (s : Station) (xs : List Reading),
      (xs.foldl (fun s x => s.read a.time x) s).pressure = s.pressure.recordAll (pressureSamples xs) := by
    intro s xs
    induction xs using List.reverseRecOn with
    | nil => rfl
    | append_singleton xs x ih =>
      rw [List.foldl_concat, pressure_read, ih, pressureSamples_append, pressureSamples_singleton,
        PressureHistory.recordAll_append]
  obtain ⟨-, hstation⟩ := s.ingested_eq a
  have happlied : (s.applied a.packet a.time).pressure = s.pressure.recordAll (pressureSamples a.packet.readings) := by
    rw [applied, afterReadings_eq, hreadings, pressure_rollDay]
  rw [hstation, after_eq]
  exact happlied

/-- Packets panic where what they tell of the pressure does. -/
theorem ingestAllChecked_eq (s : Station) (arrivals : List Arrival) :
    s.ingestAllChecked arrivals =
      (s.pressure.recordAllChecked (pressureSamples (Arrival.readings arrivals))).map fun _ => s.ingestAll arrivals := by
  induction arrivals generalizing s with
  | nil => rfl
  | cons a rest ih =>
    have hreadings : Arrival.readings (a :: rest) = a.packet.readings ++ Arrival.readings rest := List.flatMap_cons
    have hfirst : s.ingestAllChecked (a :: rest) =
        (s.pressure.recordAllChecked (pressureSamples a.packet.readings)).bind fun _ =>
          (s.ingested a).station.ingestAllChecked rest := by
      rw [ingestAllChecked, List.foldlM_cons, ingestChecked_eq]
      cases s.pressure.recordAllChecked (pressureSamples a.packet.readings) <;> rfl
    rw [hfirst, hreadings, pressureSamples_append, PressureHistory.recordAllChecked_append]
    cases hchecked : s.pressure.recordAllChecked (pressureSamples a.packet.readings) with
    | error message => rfl
    | ok after =>
      have hafter : (s.ingested a).station.pressure = after :=
        (s.pressure_ingested a).trans (PressureHistory.recordAllChecked_ok hchecked).symm
      exact (ih (s.ingested a).station).trans (by rw [hafter]; rfl)

variable (info : StationInfo) (gauge : Rainfall.Gauge) (places : SensorPlaces) (zone : Zone)

/-- A station's history has taken in what its readings told of the pressure. -/
theorem pressure_ingestAll (arrivals : List Arrival) :
    ((opened info gauge places zone).ingestAll arrivals).pressure =
      ({} : PressureHistory).recordAll (pressureSamples (Arrival.readings arrivals)) := by
  induction arrivals using List.reverseRecOn with
  | nil => rfl
  | append_singleton arrivals a ih =>
    rw [ingestAll_snoc, pressure_ingested, ih, Arrival.readings_snoc, pressureSamples_append, PressureHistory.recordAll_append]

/-- An air packet as it is sent, with its time and its pressure. -/
def airDatagram (time pressure : String) : ByteArray :=
  ("\x7b\"type\":\"obs_air\",\"serial_number\":\"AR-1\",\"obs\":[[" ++ time ++ "," ++ pressure ++ ",5.0,80.0,0,0]]\x7d").toUTF8

/-- The packets of datagrams, those that hold none passed over. -/
def arrivalsOf (datagrams : List ByteArray) : List Arrival :=
  datagrams.filterMap fun bytes => (Packet.decode bytes).toOption.map fun packet => { packet, time := .start1970 }

/-- How the differences of times come out that a station's history takes, whatever packets come in.

A build with overflow checks ingests all packets as long as every difference fits into 64 bits, as a release build does,
and panics at the first that does not. No difference is negative. In a release build one does not fit exactly if a
sample stays that is older than the window, and then all stay. All fit exactly if each time, if it is not before the one
ahead of it, is at most 64 bits after those of the window of that one; so they do if each time and each earlier one are,
and so they do if no time is before 1970. -/
theorem stale_sample_stays_on_overflow (arrivals : List Arrival) :
    let start := opened info gauge places zone
    let samples := pressureSamples (Arrival.readings arrivals)
    (InRange samples → start.ingestAllChecked arrivals = .ok (start.ingestAll arrivals)) ∧
      (¬InRange samples → start.ingestAllChecked arrivals = .error (some "attempt to subtract with overflow")) ∧
      (start.ingestAll arrivals).pressure = ({} : PressureHistory).recordAll samples ∧
      (∀ before s, before ++ [s] <+: samples →
        let h := ({} : PressureHistory).recordAll before
        let fits := ∀ old ∈ h.compared s, Word.Fits64 (old.age s)
        (∀ old ∈ h.compared s, 0 ≤ old.age s) ∧ (fits ↔ ∀ old ∈ (h.record s).samples, old.age s ≤ 10800) ∧
          (¬fits → (h.record s).samples = h.samples ++ [s])) ∧
      (InRange samples ↔ ∀ before newest s run, before ++ [newest] ++ [s] <+: samples → newest.epoch.toInt ≤ s.epoch.toInt →
        IsLatestRun run (before ++ [newest]) → ∀ old ∈ run, old.age newest ≤ 10800 → old.age s ≤ Word.maxInt64) ∧
      (samples.Pairwise (fun a b => Word.Fits64 (a.age b)) → InRange samples) ∧
      ((∀ s ∈ samples, 0 ≤ s.epoch.toInt) → InRange samples) := by
  intro start samples
  have hchecked : start.ingestAllChecked arrivals =
      (({} : PressureHistory).recordAllChecked samples).map fun _ => start.ingestAll arrivals :=
    start.ingestAllChecked_eq arrivals
  obtain ⟨hfits, hpanics⟩ := PressureHistory.recordAllChecked_eq samples
  refine ⟨fun h => ?_, fun h => ?_, pressure_ingestAll info gauge places zone arrivals, ?_, PressureHistory.inRange_iff,
    PressureHistory.inRange_of_fits, fun h => PressureHistory.inRange_of_fits (PressureSample.fits_of_nonneg h)⟩
  · rw [hchecked, hfits h]
    rfl
  · rw [hchecked, hpanics h]
    rfl
  intro before s _ h fits
  have horder := PressureHistory.inOrder_recordAll before
  refine ⟨?_, (PressureHistory.within_record_iff horder s).symm, fun hover => ?_⟩
  · intro old hold
    exact (PressureHistory.inOrder_carried horder s).age_nonneg old ((h.compared_sublist s).mem hold)
  · exact (PressureHistory.record_of_not_fits horder s hover).1

/-- Of two packets a little more than three hours apart the times are in range, and the first sample is
dropped, in either build. -/
theorem times_in_range :
    let start := opened {} {} []
    let arrivals := arrivalsOf [airDatagram "1704067200" "1000.0", airDatagram "1704078001" "1010.0"]
    let samples := pressureSamples (Arrival.readings arrivals)
    (∀ s ∈ samples, 0 ≤ s.epoch.toInt) ∧ InRange samples ∧
      start.ingestAllChecked arrivals = .ok (start.ingestAll arrivals) ∧
      (start.ingestAll arrivals).pressure.samples = [⟨1704078001, 1010.0⟩] := by
  intro start arrivals samples
  have hsamples : samples = [⟨1704067200, 1000.0⟩, ⟨1704078001, 1010.0⟩] := by decide +kernel
  have htimes : ∀ s ∈ samples, 0 ≤ s.epoch.toInt := by
    rw [hsamples]
    decide
  obtain ⟨hchecked, -, hhistory, -, -, -, hrange⟩ := stale_sample_stays_on_overflow {} {} [] .utc arrivals
  refine ⟨htimes, hrange htimes, hchecked (hrange htimes), ?_⟩
  rw [hhistory, show pressureSamples (Arrival.readings arrivals) = _ from hsamples]
  decide

/-- Of two packets whose times are as far apart as times can be the difference does not fit. A build with overflow
checks panics; in a release build the first sample stays, and for the change from it the pressure is said to rise. -/
theorem times_apart_overflow :
    let start := opened {} {} []
    let arrivals := arrivalsOf [airDatagram "-1e300" "1000.0", airDatagram "1e300" "1010.0"]
    let first : PressureSample := ⟨Int64.minValue, 1000.0⟩
    let second : PressureSample := ⟨Int64.maxValue, 1010.0⟩
    let s := start.ingestAll arrivals
    pressureSamples (Arrival.readings arrivals) = [first, second] ∧ ¬InRange [first, second] ∧
      start.ingestAllChecked arrivals = .error (some "attempt to subtract with overflow") ∧
      first.age second = 18446744073709551615 ∧ s.pressure.samples = [first, second] ∧ s.live.trend = .rising := by
  intro start arrivals first second s
  have hsamples : pressureSamples (Arrival.readings arrivals) = [first, second] := by decide +kernel
  have hage : first.age second = 18446744073709551615 := by decide
  have hover : ¬InRange [first, second] := by
    intro hrange
    have hfits := hrange [first] second (List.prefix_refl _) first (by decide)
    rw [hage] at hfits
    exact absurd hfits (by decide)
  refine ⟨hsamples, hover, ?_, hage, ?_, by decide +kernel⟩
  · have hpanics := (PressureHistory.recordAllChecked_eq [first, second]).2 hover
    have hstart : start.pressure.recordAllChecked [first, second] = .error Word.overflow := hpanics
    rw [ingestAllChecked_eq, hsamples, hstart]
    rfl
  · rw [pressure_ingestAll, hsamples]
    decide

end Station

end WeatherRelay
