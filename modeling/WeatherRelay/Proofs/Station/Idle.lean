import WeatherRelay.Proofs.Calendar
import WeatherRelay.Proofs.Station.History

/-!
# Packets without readings

A packet without readings only rolls the day, and the next packet would have rolled it anyway. While the dates do not go
back, it makes no difference whether highs and lows are cleared once or on several days: until the next packet with
readings the two stations may differ, and from it on they are the same (`SameFrom`). So packets without readings can be
put in anywhere, and what becomes of all others stays as it was.
-/

namespace WeatherRelay

/-- Whether a packet has no readings: it is of a kind that has none, or it has no rows. -/
def Packet.isIdle : Packet → Bool
  | .air _ rows => rows.isEmpty
  | .sky _ rows => rows.isEmpty
  | .tower _ rows => rows.isEmpty
  | .rapidWind _ => false
  | .strike .. | .rainStart _ | .deviceStatus _ | .hubStatus _ | .unknown _ => true

/-- The elements of a list that are marked, in order. -/
def kept {β : Type} (marks : List Bool) (xs : List β) : List β := ((marks.zip xs).filter (·.1)).map (·.2)

theorem kept_cons_true {β : Type} (marks : List Bool) (x : β) (xs : List β) :
    kept (true :: marks) (x :: xs) = x :: kept marks xs := rfl

theorem kept_cons_false {β : Type} (marks : List Bool) (x : β) (xs : List β) :
    kept (false :: marks) (x :: xs) = kept marks xs := rfl

/-- Clearing highs and lows again changes nothing. -/
theorem Observation.clearExtremes_clearExtremes (o : Snapshot) : o.clearExtremes.clearExtremes = o.clearExtremes := by
  simp [clearExtremes]

namespace Station

/-- A packet without readings rolls the day. -/
theorem after_of_isIdle (s : Station) {p : Packet} (h : p.isIdle = true) (now : Moment) :
    s.after p now = (s.rollDay now.date).1 := by
  cases p with
  | air serial rows =>
    obtain rfl := List.isEmpty_iff.mp h
    rfl
  | sky serial rows =>
    obtain rfl := List.isEmpty_iff.mp h
    rfl
  | tower serial rows =>
    obtain rfl := List.isEmpty_iff.mp h
    rfl
  | rapidWind w => exact absurd h Bool.false_ne_true
  | _ => rfl

/-! ## Rolling the day -/

/-- That a station that has no day yet has no highs and lows. -/
def BeginsClear (s : Station) : Prop := s.day = none → s.live.clearExtremes = s.live

/-- A day in between makes no difference: highs and lows are cleared once or twice. -/
theorem rollDay_rollDay {s : Station} (hclear : s.BeginsClear) {between today : Date} (hday : ∀ day ∈ s.day, day ≤ between)
    (hle : between ≤ today) : ((s.rollDay between).1.rollDay today).1 = (s.rollDay today).1 := by
  by_cases htoday : between = today
  · subst htoday
    obtain ⟨-, hrolled⟩ := s.rollDay_frame between
    rw [rollDay_of_same _ _ (by simp [hrolled]), ← hrolled]
  · cases hs : s.day with
    | none =>
      -- the day in between is the first one, and the next clears what is clear
      rw [rollDay_of_same s between (by simp [hs]), rollDay_of_same s today (by simp [hs]),
        rollDay_of_other _ between today rfl htoday]
      simp only [hclear hs]
    | some day =>
      have hbefore : day ≤ between := hday day hs
      have hday' : day ≠ today := by
        rintro rfl
        exact htoday (le_antisymm hle hbefore)
      by_cases hbetween : day = between
      · rw [rollDay_of_same s between (by simp [hs, hbetween]), ← hbetween, ← hs]
      · rw [rollDay_of_other s day between hs hbetween, rollDay_of_other s day today hs hday',
          rollDay_of_other _ between today rfl htoday]
        simp only [Observation.clearExtremes_clearExtremes]

/-- That no packet to come can tell two stations apart: whatever day it is received on, from the second one's day on, it
finds them to be the same once it has rolled the day. -/
def SameFrom (s t : Station) : Prop :=
  ∀ today, (∀ day ∈ t.day, day ≤ today) → (s.rollDay today).1 = (t.rollDay today).1

namespace SameFrom

variable {s t : Station}

/-- The same becomes of a packet at both. -/
theorem ingested (h : SameFrom s t) {a : Arrival} (hday : ∀ day ∈ t.day, day ≤ a.time.date) :
    s.ingested a = t.ingested a := by
  have happlied : s.applied a.packet a.time = t.applied a.packet a.time := by
    rw [applied, applied, h a.time.date hday]
  obtain ⟨hsnapshot, hstation⟩ := s.ingested_eq a
  obtain ⟨hsnapshot', hstation'⟩ := t.ingested_eq a
  have hsnapshots : (s.ingested a).snapshot? = (t.ingested a).snapshot? := by
    rw [hsnapshot, hsnapshot', snapshot?, snapshot?, happlied]
  have hstations : (s.ingested a).station = (t.ingested a).station := by
    rw [hstation, hstation', after, after, happlied]
  exact congrArg₂ (Ingested.mk a) hsnapshots hstations

/-- A packet without readings leaves the second station one that no packet to come tells from the first. -/
theorem ingested_right (h : SameFrom s t) (hclear : t.BeginsClear) {a : Arrival} (hidle : a.packet.isIdle = true)
    (hday : ∀ day ∈ t.day, day ≤ a.time.date) : SameFrom s (t.ingested a).station := by
  obtain ⟨-, hstation⟩ := t.ingested_eq a
  rw [hstation, after_of_isIdle t hidle]
  intro today htoday
  have hle : a.time.date ≤ today := htoday a.time.date (t.rollDay_frame a.time.date).2
  rw [rollDay_rollDay hclear hday hle]
  exact h today fun day hd => (hday day hd).trans hle

end SameFrom

/-! ## Whole runs -/

/-- What becomes of the marked packets is what becomes of them alone, when the others have no readings. -/
theorem kept_history {s t : Station} (h : SameFrom s t) (hclear : t.BeginsClear) {arrivals : List Arrival} {marks : List Bool}
    (hday : ∀ day ∈ t.day, ∀ a ∈ arrivals, day ≤ a.time.date)
    (hdates : arrivals.Pairwise (·.time.date ≤ ·.time.date))
    (hidle : ∀ a, (false, a) ∈ marks.zip arrivals → a.packet.isIdle = true) :
    kept marks (t.history arrivals) = s.history (kept marks arrivals) := by
  induction arrivals generalizing s t marks with
  | nil => simp [kept, history]
  | cons a rest ih =>
    obtain ⟨hnext, hrest⟩ := List.pairwise_cons.mp hdates
    have hnow : ∀ day ∈ t.day, day ≤ a.time.date := fun day hd => hday day hd a List.mem_cons_self
    have hafter : (t.ingested a).station.day = some a.time.date := by rw [(t.ingested_eq a).2, day_after]
    have hclear' : (t.ingested a).station.BeginsClear := fun hnone => by simp [hafter] at hnone
    have hday' : ∀ day ∈ (t.ingested a).station.day, ∀ b ∈ rest, day ≤ b.time.date := by
      rw [hafter]
      rintro day ⟨⟩ b hb
      exact hnext b hb
    cases marks with
    | nil => rfl
    | cons mark marks =>
      have hidle' : ∀ b, (false, b) ∈ marks.zip rest → b.packet.isIdle = true := fun b hb =>
        hidle b (List.mem_cons_of_mem _ hb)
      cases mark with
      | true =>
        have htail := ih (s := (t.ingested a).station) (fun _ _ => rfl) hclear' hday' hrest hidle'
        rw [history, kept_cons_true, kept_cons_true, history, h.ingested hnow, htail]
      | false =>
        have ha : a.packet.isIdle = true := hidle a List.mem_cons_self
        rw [history, kept_cons_false, kept_cons_false]
        exact ih (h.ingested_right hclear ha hnow) hclear' hday' hrest hidle'

/-- Packets without readings may be put in among others, anywhere and in any number, as long as the dates do not go
back: of the run with them, what becomes of the others (the marked ones) is what becomes of them in the run without.
Each returns the same snapshot or none, and leaves the same station: live observation, trackers, trigger and day. -/
theorem idle_packets_are_invisible (info : StationInfo) (gauge : Rainfall.Gauge) (places : SensorPlaces) (zone : Zone)
    (arrivals : List Arrival) (marks : List Bool) (hdates : arrivals.Pairwise (·.time.date ≤ ·.time.date))
    (hidle : ∀ a, (false, a) ∈ marks.zip arrivals → a.packet.isIdle = true) :
    let start := opened info gauge places zone
    kept marks (start.history arrivals) = start.history (kept marks arrivals) := by
  intro start
  have hclear : start.BeginsClear := fun _ => rfl
  exact kept_history (fun _ _ => rfl) hclear (by simp [start, opened]) hdates hidle

/-- An air packet with a row. -/
def firstReading : Arrival where
  packet := .air "AR-1" [⟨0, 1000.0, 20.0, 50.0, 0, 0.0⟩]
  time := (Moment.of? 2024 6 12 12 0 0).getD default

/-- A packet about the hub, on the next day. -/
def hubStatus : Arrival where
  packet := .hubStatus "HB-1"
  time := (Moment.of? 2024 6 13 12 0 0).getD default

/-- A sky packet without rows, on the day after. -/
def emptySky : Arrival where
  packet := .sky "SK-1" []
  time := (Moment.of? 2024 6 14 12 0 0).getD default

/-- A sky packet with a row, on the last day. -/
def lastReading : Arrival where
  packet := .sky "SK-1" [⟨0, 0.0, 0.0, 0.5, 2.0, 3.0, 90.0, 0.0⟩]
  time := (Moment.of? 2024 6 15 12 0 0).getD default

/-- Two packets without readings, each of which begins a day, between the two that complete a cycle. -/
theorem days_without_readings :
    let start := opened {} {} []
    let arrivals := [firstReading, hubStatus, emptySky, lastReading]
    arrivals.Pairwise (·.time.date ≤ ·.time.date) ∧
      kept [true, false, false, true] (start.history arrivals) = start.history [firstReading, lastReading] ∧
      (start.history arrivals).map (·.snapshot?.isSome) = [false, false, false, true] := by
  intro start arrivals
  have hdates : arrivals.Pairwise (·.time.date ≤ ·.time.date) := by decide +kernel
  have hidle : ∀ a, (false, a) ∈ [true, false, false, true].zip arrivals → a.packet.isIdle = true := by
    intro a ha
    obtain rfl | rfl : a = hubStatus ∨ a = emptySky := by simpa [arrivals] using ha
    · rfl
    · rfl
  exact ⟨hdates, idle_packets_are_invisible {} {} [] .utc arrivals _ hdates hidle, by decide +kernel⟩

end Station

end WeatherRelay
