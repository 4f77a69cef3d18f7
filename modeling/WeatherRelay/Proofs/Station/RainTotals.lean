import WeatherRelay.Proofs.Station.Coherence

/-!
# Which moment the rain totals of a snapshot are of

Only sky readings bring the rain totals of the live observation up to date, and a cycle may be completed by an air
packet that comes later. So a snapshot shows the totals as of the last sky packet (`ShowsRainOf`). They are those of the
moment at which it is taken as long as all that they count still counts then (`StillCounts`); the end of a minute, an
hour, a day, a month or a year in which rain fell leaves them behind.
-/

namespace WeatherRelay

namespace Rainfall

/-- That a total sums only slots that were written in the span that ends with a minute or an hour. -/
def Slot.SumsWithin (span this : Int) (slots : List (Slot Float)) (total : Float) : Prop :=
  ∃ counted : List (Slot Float), counted.Sublist slots ∧ (∀ s ∈ counted, s.within span this = true) ∧
    total = Scalar.sum (counted.map (·.amount))

/-- An earlier total does as long as none of its slots has left the span. -/
theorem Slot.sumsWithin_total {span before this : Int} {slots : List (Slot Float)}
    (h : ∀ s ∈ slots, s.within span before = true → s.within span this = true) :
    SumsWithin span this slots (total span before slots) := by
  refine ⟨slots.filter (within span before), List.filter_sublist, ?_, rfl⟩
  intro s hs
  obtain ⟨hmem, hbefore⟩ := List.mem_filter.mp hs
  exact h s hmem hbefore

namespace Accumulator

/-- The totals with all that is over left out: windows whose period has ended, and slots that have left the spans. -/
def totalsOf (rain : Accumulator Float) (now : Moment) : Totals Float := (rain.roll now).totalsAt now

/-- Rain that was just added leaves nothing in the totals that is over. -/
theorem totalsOf_add (rain : Accumulator Float) (amount : Float) (now : Moment) :
    (rain.add amount now).totalsOf now = (rain.add amount now).totalsAt now := rfl

/-- That what the totals of one moment count still counts at another: every period goes on, unless no rain fell in it,
and no slot has left the rolling spans. -/
structure StillCounts (rain : Accumulator Float) (t now : Moment) : Prop where
  windows : ∀ p, p.same t now = true ∨ (rain.totalsOf t).windows.get p = 0
  minuteSlots : ∀ s ∈ rain.minuteSlots.toList, s.within 60 t.minuteIndex = true → s.within 60 now.minuteIndex = true
  hourSlots : ∀ s ∈ rain.hourSlots.toList, s.within 24 t.hourIndex = true → s.within 24 now.hourIndex = true

/-- Within a minute everything does. -/
theorem stillCounts_of_minute (rain : Accumulator Float) {t now : Moment} (h : Period.minute.same t now = true) :
    rain.StillCounts t now := by
  have hminute : t.minuteIndex = now.minuteIndex := (Period.minute.same_iff t now).mp h
  have hhour : t.hourIndex = now.hourIndex := (Period.hour.same_iff t now).mp (Period.same_of_minute h .hour)
  refine ⟨fun p => Or.inl (Period.same_of_minute h p), ?_, ?_⟩
  · rw [hminute]
    exact fun _ _ => id
  · rw [hhour]
    exact fun _ _ => id

end Accumulator

end Rainfall

namespace Observation

open Rainfall

/-- That an observation's rain totals are current: its windows show what an accumulator's read at a moment, and its
rolling totals sum only slots written in the 60 minutes and the 24 hours that end then. -/
structure RainIsCurrent (o : Snapshot) (rain : Accumulator Float) (now : Moment) : Prop where
  windows : ∀ p, o.rainTotals.windows.get p = (rain.totalsAt now).windows.get p
  last60 : Slot.SumsWithin 60 now.minuteIndex rain.minuteSlots.toList o.rain60
  last24 : Slot.SumsWithin 24 now.hourIndex rain.hourSlots.toList o.rain24

end Observation

namespace Arrival

/-- When the last sky packet with a row was received. -/
def lastSky? (arrivals : List Arrival) : Option Moment := ((arrivals.filter (·.packet.hasSky)).getLast?).map (·.time)

theorem lastSky?_snoc (arrivals : List Arrival) (a : Arrival) :
    lastSky? (arrivals ++ [a]) = if a.packet.hasSky = true then some a.time else lastSky? arrivals := by
  by_cases h : a.packet.hasSky = true
  · simp [lastSky?, h]
  · simp [lastSky?, h]

theorem exists_of_lastSky? {arrivals : List Arrival} {t : Moment} (h : lastSky? arrivals = some t) :
    ∃ a ∈ arrivals, a.time = t := by
  obtain ⟨a, ha, rfl⟩ := Option.map_eq_some_iff.mp h
  exact ⟨a, (List.mem_filter.mp (List.mem_of_getLast? ha)).1, rfl⟩

theorem exists_lastSky? {arrivals : List Arrival} {r : SkyRow} (h : .sky r ∈ readings arrivals) :
    ∃ t, lastSky? arrivals = some t := by
  obtain ⟨a, ha, hr⟩ := List.mem_flatMap.mp h
  have hmem : a ∈ arrivals.filter (·.packet.hasSky) := List.mem_filter.mpr ⟨ha, Packet.hasSky_of_mem hr⟩
  have hlast := List.getLast?_eq_some_getLast (List.ne_nil_of_mem hmem)
  exact ⟨_, by rw [lastSky?, hlast, Option.map_some]⟩

end Arrival

namespace Station

open Rainfall

/-- That a station's live observation shows the rain totals of a moment, the one at which rain was last added. -/
structure ShowsRainOf (t : Moment) (s : Station) : Prop where
  totals : s.live.rainTotals = s.gauge.accumulator.totalsOf t
  last : ∀ p, (s.gauge.accumulator.windows.get p).last = some t

/-! ## What readings do to the totals -/

/-- A sky reading brings them up to date. -/
theorem showsRainOf_afterSky (s : Station) (r : SkyRow) (now : Moment) : (s.afterSky r now).ShowsRainOf now where
  totals := (s.gauge.accumulator.totalsOf_add r.rain now).symm
  last p := by
    have hadd : (s.afterSky r now).gauge.accumulator = s.gauge.accumulator.add r.rain now := rfl
    rw [hadd, Accumulator.add_window]
    rfl

namespace ShowsRainOf

variable {t : Moment} {s : Station}

/-- Other readings leave them as they were. -/
theorem read (h : s.ShowsRainOf t) (now : Moment) {x : Reading} (hx : ∀ r, x ≠ .sky r) : (s.read now x).ShowsRainOf t := by
  cases x with
  | air r => exact ⟨h.totals, h.last⟩
  | sky r => exact absurd rfl (hx r)
  | wind w => exact ⟨h.totals, h.last⟩
  | tower serial r =>
    obtain ⟨sensors, htower⟩ := s.applyTower_eq serial r
    rw [Station.read, htower]
    exact ⟨h.totals, h.last⟩

/-- So does a new day. -/
theorem rollDay (h : s.ShowsRainOf t) (today : Date) : (s.rollDay today).1.ShowsRainOf t := by
  unfold Station.rollDay
  split
  · exact ⟨h.totals, h.last⟩
  · split
    · exact h
    · exact ⟨h.totals, h.last⟩

end ShowsRainOf

/-! ## What packets do to the totals -/

/-- A sky packet with a row brings the totals up to date. -/
theorem showsRainOf_afterReadings (s : Station) {p : Packet} (h : p.hasSky = true) (now : Moment) :
    (s.afterReadings p now).ShowsRainOf now := by
  cases p with
  | sky serial rows =>
    rcases List.eq_nil_or_concat rows with rfl | ⟨earlier, r, rfl⟩
    · exact absurd h Bool.false_ne_true
    · rw [afterReadings, List.concat_eq_append, List.foldl_concat]
      exact showsRainOf_afterSky _ r now
  | _ => exact absurd h Bool.false_ne_true

/-- Any other packet leaves them as they were. -/
theorem ShowsRainOf.afterReadings {t : Moment} {s : Station} (h : s.ShowsRainOf t) {p : Packet} (hp : ¬p.hasSky = true)
    (now : Moment) : (s.afterReadings p now).ShowsRainOf t := by
  have hnone : ∀ x ∈ p.readings, ∀ r, x ≠ .sky r := by
    rintro x hx r rfl
    exact hp (Packet.hasSky_of_mem hx)
  rw [afterReadings_eq]
  generalize p.readings = xs at hnone
  induction xs generalizing s with
  | nil => exact h
  | cons x rest ih =>
    exact ih (h.read now (hnone x List.mem_cons_self)) fun y hy => hnone y (List.mem_cons_of_mem _ hy)

/-- After any packets the live observation shows the totals of the last sky packet. -/
theorem showsRainOf_ingestAll (s : Station) (arrivals : List Arrival) {t : Moment} (h : Arrival.lastSky? arrivals = some t) :
    (s.ingestAll arrivals).ShowsRainOf t := by
  induction arrivals using List.reverseRecOn generalizing t with
  | nil => exact absurd h (Option.some_ne_none t).symm
  | append_singleton arrivals a ih =>
    obtain ⟨-, hstation⟩ := (s.ingestAll arrivals).ingested_eq a
    have happlied : ((s.ingestAll arrivals).applied a.packet a.time).ShowsRainOf t := by
      rw [Arrival.lastSky?_snoc] at h
      split at h
      case isTrue hsky =>
        obtain rfl := Option.some.inj h
        exact showsRainOf_afterReadings _ hsky a.time
      case isFalse hsky => exact ((ih h).rollDay a.time.date).afterReadings hsky a.time
    rw [ingestAll_snoc, hstation, after_eq]
    exact ⟨happlied.totals, happlied.last⟩

namespace ShowsRainOf

variable {t : Moment} {s : Station}

/-- A window shows what it reads at a moment if its period goes on until then, or if it shows nothing. -/
theorem window_eq_iff (h : s.ShowsRainOf t) (now : Moment) (p : Period) :
    s.live.rainTotals.windows.get p = (s.gauge.accumulator.totalsAt now).windows.get p ↔
      p.same t now = true ∨ s.live.rainTotals.windows.get p = 0 := by
  have hread : ∀ u, (s.gauge.accumulator.totalsAt u).windows.get p =
      if p.same t u = true then (s.gauge.accumulator.windows.get p).sum else 0 := by
    intro u
    rw [Accumulator.totalsAt_window, Window.current, Window.covers, h.last p]
    rfl
  have hshown : s.live.rainTotals.windows.get p = (s.gauge.accumulator.windows.get p).sum := by
    rw [h.totals]
    exact (hread t).trans (if_pos (p.same_refl t))
  rw [hread now, hshown]
  split
  case isTrue hsame => exact iff_of_true rfl (Or.inl hsame)
  case isFalse hsame => exact (or_iff_right hsame).symm

/-- The totals shown are current as long as all that they count still counts. -/
theorem rainIsCurrent (h : s.ShowsRainOf t) {now : Moment} (hcounts : s.gauge.accumulator.StillCounts t now) :
    s.live.RainIsCurrent s.gauge.accumulator now where
  windows p := by
    refine (h.window_eq_iff now p).mpr ?_
    rw [h.totals]
    exact hcounts.windows p
  last60 := by
    have hshown : s.live.rain60 = Slot.total 60 t.minuteIndex s.gauge.accumulator.minuteSlots.toList :=
      congrArg (·.last60) h.totals
    rw [hshown]
    exact Slot.sumsWithin_total hcounts.minuteSlots
  last24 := by
    have hshown : s.live.rain24 = Slot.total 24 t.hourIndex s.gauge.accumulator.hourSlots.toList :=
      congrArg (·.last24) h.totals
    rw [hshown]
    exact Slot.sumsWithin_total hcounts.hourSlots

end ShowsRainOf

/-- The rain totals of a snapshot are those of the moment at which the last sky packet with a row was received, be it
the packet that completed the cycle or one before. A window is current exactly if its period still goes on when the
snapshot is taken or no rain fell in it, and all totals are if all that they count still counts; so they are within the
minute of that sky packet. -/
theorem snapshot_shows_rain_of_last_sky (info : StationInfo) (gauge : Gauge) (places : SensorPlaces) (zone : Zone)
    (before : List Arrival)
    (a : Arrival) (snapshot : Snapshot)
    (h : (((opened info gauge places zone).ingestAll before).ingested a).snapshot? = some snapshot) :
    let rain := (((opened info gauge places zone).ingestAll before).ingested a).station.gauge.accumulator
    ∃ t, Arrival.lastSky? (before ++ [a]) = some t ∧
      ((before ++ [a]).Pairwise (·.time ≤ ·.time) → t ≤ a.time) ∧
      snapshot.rainTotals = rain.totalsOf t ∧
      (∀ p, snapshot.rainTotals.windows.get p = (rain.totalsAt a.time).windows.get p ↔
        p.same t a.time = true ∨ snapshot.rainTotals.windows.get p = 0) ∧
      (rain.StillCounts t a.time → snapshot.RainIsCurrent rain a.time) ∧
      (Period.minute.same t a.time = true → snapshot.RainIsCurrent rain a.time) := by
  intro rain
  obtain ⟨-, r, hr⟩ := read_of_snapshot info gauge places zone before a (Option.isSome_of_mem h)
  obtain ⟨t, ht⟩ := Arrival.exists_lastSky? hr
  have hshows := showsRainOf_ingestAll (opened info gauge places zone) (before ++ [a]) ht
  rw [ingestAll_snoc] at hshows
  obtain rfl := live_of_ingested h
  refine ⟨t, ht, ?_, hshows.totals, hshows.window_eq_iff a.time, hshows.rainIsCurrent, ?_⟩
  · intro htimes
    obtain ⟨b, hb, rfl⟩ := Arrival.exists_of_lastSky? ht
    rcases List.mem_append.mp hb with hb | hb
    · exact (List.pairwise_append.mp htimes).2.2 b hb a (by simp)
    · rw [List.mem_singleton.mp hb]
  · exact fun hsame => hshows.rainIsCurrent (rain.stillCounts_of_minute hsame)

/-- A sky packet with rain on the last evening of a year. -/
def eveningSky : Arrival where
  packet := .sky "SK-1" [⟨1704060000, 0.0, 0.0, 4.0, 2.0, 3.0, 90.0, 0.0⟩]
  time := (Moment.of? 2023 12 31 22 0 0).getD default

/-- An air packet in the same minute. -/
def eveningAir : Arrival where
  packet := .air "AR-1" [⟨1704060040, 1000.0, 5.0, 80.0, 0, 0.0⟩]
  time := (Moment.of? 2023 12 31 22 0 40).getD default

/-- An air packet after midnight. -/
def newYearAir : Arrival where
  packet := .air "AR-1" [⟨1704067260, 1000.0, 5.0, 80.0, 0, 0.0⟩]
  time := (Moment.of? 2024 1 1 0 1 0).getD default

/-- An air packet that completes the cycle within the minute shows rain totals that are current. -/
theorem rain_is_current_within_the_minute :
    let o := ((opened {} {} []).ingestAll [eveningSky]).ingested eveningAir
    ∃ snapshot, o.snapshot? = some snapshot ∧ snapshot.RainIsCurrent o.station.gauge.accumulator eveningAir.time := by
  intro o
  have hfires : o.snapshot?.isSome = true := by decide +kernel
  obtain ⟨snapshot, h⟩ := Option.isSome_iff_exists.mp hfires
  obtain ⟨t, ht, -, -, -, -, hminute⟩ := snapshot_shows_rain_of_last_sky {} {} [] .utc [eveningSky] eveningAir snapshot h
  obtain rfl : eveningSky.time = t := Option.some.inj ht
  exact ⟨snapshot, h, hminute (by decide +kernel)⟩

/-- An air packet that completes the cycle in the new year shows the rain of the old one in the totals of the minute,
the hour, the day, the month and the year, though nothing has fallen in any of them, and in that of 60 minutes in
which no slot was written. -/
theorem rain_of_the_old_year_is_shown :
    let o := ((opened {} {} []).ingestAll [eveningSky]).ingested newYearAir
    let rain := o.station.gauge.accumulator
    [eveningSky, newYearAir].Pairwise (·.time ≤ ·.time) ∧
      ∃ snapshot, o.snapshot? = some snapshot ∧ ¬snapshot.RainIsCurrent rain newYearAir.time ∧
        (∀ p, snapshot.rainTotals.windows.get p = 4.0) ∧ (∀ p, (rain.totalsAt newYearAir.time).windows.get p = 0) ∧
        snapshot.rain60 = 4.0 ∧ ∀ s ∈ rain.minuteSlots.toList, s.within 60 newYearAir.time.minuteIndex = false := by
  intro o rain
  have hfires : o.snapshot?.isSome = true := by decide +kernel
  obtain ⟨snapshot, h⟩ := Option.isSome_iff_exists.mp hfires
  have hshows := showsRainOf_ingestAll (opened {} {} []) [eveningSky, newYearAir] (t := eveningSky.time) rfl
  have htotals : snapshot.rainTotals = rain.totalsOf eveningSky.time := by
    rw [live_of_ingested h]
    exact hshows.totals
  have hshown : ∀ p, snapshot.rainTotals.windows.get p = 4.0 := by
    rw [htotals]
    intro p
    cases p <;> decide +kernel
  have hread : ∀ p, (rain.totalsAt newYearAir.time).windows.get p = 0 := by
    intro p
    cases p <;> decide +kernel
  have hhour : snapshot.rain60 = (rain.totalsOf eveningSky.time).last60 := congrArg (·.last60) htotals
  have hover : ∀ s ∈ rain.minuteSlots.toList, s.within 60 newYearAir.time.minuteIndex = false := by decide +kernel
  refine ⟨by decide +kernel, snapshot, h, fun hcurrent => ?_, hshown, hread, hhour.trans (by decide +kernel), hover⟩
  have hyear := hcurrent.windows .year
  rw [hshown, hread] at hyear
  exact absurd hyear (by decide +kernel)

end Station

end WeatherRelay
