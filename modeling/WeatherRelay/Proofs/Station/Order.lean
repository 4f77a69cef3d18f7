import WeatherRelay.Proofs.Station.Firing

/-!
# The order of packets within a day

Air readings, readings of auxiliary sensors, and readings of sky or wind change different parts of a station; what is
derived of air and sky readings alike is computed anew from both by whichever comes last. So two packets of such kinds,
received on one day, may come in either order: only the trigger can tell, and when both complete a cycle that nothing
has begun, not even that.
-/

namespace WeatherRelay

/-- Whether two readings are of kinds whose order does not matter. -/
def Reading.Independent : Reading → Reading → Prop
  | .air _, .sky _ | .air _, .wind _ | .air _, .tower .. | .tower .., .sky _ | .tower .., .wind _ => True
  | _, _ => False

/-- Whether two packets are of kinds whose order does not matter: an air packet and one of sky, instant wind or an
auxiliary sensor, or a packet of an auxiliary sensor and one of sky or instant wind. -/
def Packet.Independent : Packet → Packet → Prop
  | .air .., .sky .. | .air .., .rapidWind _ | .air .., .tower .. | .tower .., .sky .. | .tower .., .rapidWind _ => True
  | _, _ => False

/-- Independent packets have independent readings. -/
theorem Packet.Independent.readings {p q : Packet} (h : p.Independent q) :
    ∀ x ∈ p.readings, ∀ y ∈ q.readings, x.Independent y := by
  cases p with
  | air serial rows =>
    cases q <;> simp_all [Packet.Independent, Packet.readings, Reading.Independent]
  | tower serial rows =>
    cases q <;> simp_all [Packet.Independent, Packet.readings, Reading.Independent]
  | _ => exact h.elim

/-- A step that commutes with each of some others commutes with all of them. -/
theorem foldl_comm_step {σ β : Type} {f : σ → σ} {g : σ → β → σ} {ys : List β}
    (h : ∀ s, ∀ y ∈ ys, g (f s) y = f (g s y)) (s : σ) : ys.foldl g (f s) = f (ys.foldl g s) := by
  induction ys generalizing s with
  | nil => rfl
  | cons y rest ih =>
    rw [List.foldl_cons, List.foldl_cons, h s y List.mem_cons_self]
    exact ih (fun s y hy => h s y (List.mem_cons_of_mem _ hy)) (g s y)

/-- When each of some steps commutes with each of others, all of them commute with all of the others. -/
theorem foldl_comm {σ β γ : Type} {f : σ → β → σ} {g : σ → γ → σ} {xs : List β} {ys : List γ}
    (h : ∀ s, ∀ x ∈ xs, ∀ y ∈ ys, g (f s x) y = f (g s y) x) (s : σ) :
    ys.foldl g (xs.foldl f s) = xs.foldl f (ys.foldl g s) := by
  induction xs generalizing s with
  | nil => rfl
  | cons x rest ih =>
    have hx : ys.foldl g (f s x) = f (ys.foldl g s) x :=
      foldl_comm_step (f := fun s => f s x) (fun s y hy => h s x List.mem_cons_self y hy) s
    rw [List.foldl_cons, List.foldl_cons, ih (fun s z hz => h s z (List.mem_cons_of_mem _ hz)), hx]

namespace Station

open Observation

/-! ## Readings -/

/-- Independent readings change a station in either order. -/
theorem read_comm (s : Station) {x y : Reading} (h : x.Independent y) (m n : Moment) :
    (s.read m x).read n y = (s.read n y).read m x := by
  -- both orders are brought to one form first: `rfl` would have to compute what is derived to compare them
  cases x with
  | air r =>
    cases y with
    | air r' => exact h.elim
    | sky r' => simp only [read, applyAir, showAir, afterSky, applyWeather, derive, withGust, withRain]
    | wind w => simp only [read, applyAir, showAir, applyWind, withGust, derive]
    | tower serial r' => simp only [read, applyAir, showAir, applyTower_station, derive]
  | tower serial r =>
    cases y with
    | sky r' => simp only [read, applyTower_station, afterSky, applyWeather, derive, withGust, withRain]
    | wind w => simp only [read, applyTower_station, applyWind, withGust]
    | _ => exact h.elim
  | _ => exact h.elim

/-- The readings of independent packets change a station in either order. -/
theorem afterReadings_comm (s : Station) {p q : Packet} (h : p.Independent q) (m n : Moment) :
    (s.afterReadings p m).afterReadings q n = (s.afterReadings q n).afterReadings p m := by
  simp only [afterReadings_eq]
  exact foldl_comm (fun s x hx y hy => s.read_comm (h.readings x hx y hy) m n) s

/-! ## Without the trigger -/

/-- The station as it is apart from what its trigger has seen. -/
def withoutTrigger (s : Station) : Station := { s with trigger := {} }

/-- What the trigger has seen has no bearing on what a reading changes. -/
theorem withoutTrigger_read (s : Station) (now : Moment) (x : Reading) :
    (s.read now x).withoutTrigger = s.withoutTrigger.read now x := by
  cases x with
  | tower serial r =>
    rw [read, read, applyTower_station, applyTower_station]
    rfl
  | _ => rfl

theorem withoutTrigger_afterReadings (s : Station) (p : Packet) (now : Moment) :
    (s.afterReadings p now).withoutTrigger = s.withoutTrigger.afterReadings p now := by
  rw [afterReadings_eq, afterReadings_eq]
  exact (List.foldl_hom withoutTrigger fun s x => (s.withoutTrigger_read now x).symm).symm

/-- But for the trigger, a packet rolls the day and changes what its readings change. -/
theorem withoutTrigger_after (s : Station) (p : Packet) (now : Moment) :
    (s.after p now).withoutTrigger = (s.rollDay now.date).1.withoutTrigger.afterReadings p now := by
  rw [after_eq, ← withoutTrigger_afterReadings]
  rfl

/-- On the day of the packet before, the day is not rolled. -/
theorem rollDay_after (s : Station) (p : Packet) {m n : Moment} (h : m.date = n.date) :
    ((s.after p m).rollDay n.date).1 = s.after p m := by
  have hday : (s.after p m).day = some n.date := by rw [day_after, h]
  rw [rollDay_of_same _ _ (by simp [hday]), ← hday]

/-- But for the trigger, two packets of a day roll the day once and change what their readings change. -/
theorem withoutTrigger_after_after (s : Station) (p q : Packet) {m n : Moment} (h : m.date = n.date) :
    ((s.after p m).after q n).withoutTrigger =
      ((s.rollDay m.date).1.withoutTrigger.afterReadings p m).afterReadings q n := by
  rw [withoutTrigger_after, rollDay_after s p h, withoutTrigger_after]

/-! ## Packets -/

/-- An air packet and a sky packet, both with readings, complete a cycle that nothing has begun, the second of them. -/
theorem fires_second {s : Station} {a b : Arrival} (hpending : s.trigger.isPending = false)
    (hkinds : a.packet.hasAir = true ∧ b.packet.hasSky = true ∨ a.packet.hasSky = true ∧ b.packet.hasAir = true) :
    (s.ingested a).snapshot? = none ∧ ((s.ingested a).station.ingested b).snapshot?.isSome = true := by
  have hnothing : s.trigger = {} := by
    obtain ⟨hair, hsky⟩ : s.trigger.air = false ∧ s.trigger.sky = false := by simpa [Trigger.isPending] using hpending
    exact congrArg₂ Trigger.mk hair hsky
  have ha := a.packet.not_hasAir_and_hasSky
  obtain ⟨hfirst, htrigger⟩ := s.ingested_trigger a
  obtain ⟨hsecond, -⟩ := (s.ingested a).station.ingested_trigger b
  rw [hnothing] at hfirst htrigger
  rw [htrigger, b.packet.isNeeded_eq] at hsecond
  rw [← Option.not_isSome_iff_eq_none, hfirst, hsecond, a.packet.isNeeded_eq]
  simp only [Trigger.noting, Trigger.isFull]
  grind

/-- Two packets of one day whose kinds are independent may come in either order, at any station: the live observation,
the gust, the rain, the pressure history and the day are the same in the end. When they are an air packet and a sky
packet with readings, and no cycle was begun, then in both orders the second of them returns a snapshot and the first
does not, and it is the same snapshot. -/
theorem independent_packets_commute (s : Station) (a b : Arrival) (hday : a.time.date = b.time.date)
    (hkinds : a.packet.Independent b.packet) :
    let ab := (s.ingested a).station.ingested b
    let ba := (s.ingested b).station.ingested a
    ab.station.withoutTrigger = ba.station.withoutTrigger ∧
      (a.packet.hasAir = true → b.packet.hasSky = true → s.trigger.isPending = false →
        (s.ingested a).snapshot? = none ∧ (s.ingested b).snapshot? = none ∧
          ∃ o, ab.snapshot? = some o ∧ ba.snapshot? = some o) := by
  intro ab ba
  have hstations : ab.station.withoutTrigger = ba.station.withoutTrigger := by
    have hab : ab.station = (s.after a.packet a.time).after b.packet b.time := by
      rw [((s.ingested a).station.ingested_eq b).2, (s.ingested_eq a).2]
    have hba : ba.station = (s.after b.packet b.time).after a.packet a.time := by
      rw [((s.ingested b).station.ingested_eq a).2, (s.ingested_eq b).2]
    rw [hab, hba, withoutTrigger_after_after s _ _ hday, withoutTrigger_after_after s _ _ hday.symm, ← hday]
    exact afterReadings_comm _ hkinds a.time b.time
  refine ⟨hstations, fun hair hsky hpending => ?_⟩
  obtain ⟨hfirst, hsecond⟩ := fires_second hpending (Or.inl ⟨hair, hsky⟩)
  obtain ⟨hfirst', hsecond'⟩ := fires_second hpending (Or.inr ⟨hsky, hair⟩)
  obtain ⟨o, ho⟩ := Option.isSome_iff_exists.mp hsecond
  obtain ⟨o', ho'⟩ := Option.isSome_iff_exists.mp hsecond'
  have hlive : ab.station.live = ba.station.live := congrArg (·.live) hstations
  have hsame : o = o' := (live_of_ingested ho).trans (hlive.trans (live_of_ingested ho').symm)
  exact ⟨hfirst, hfirst', o, ho, hsame ▸ ho'⟩

/-- An air packet with two rows. -/
def noonAir : Arrival where
  packet := .air "AR-1" [⟨0, 1000.0, 20.0, 50.0, 0, 0.0⟩, ⟨60, 1001.0, 21.0, 50.0, 0, 0.0⟩]
  time := (Moment.of? 2024 6 12 12 1 0).getD default

/-- A sky packet with wind and rain, received shortly before. -/
def noonSky : Arrival where
  packet := .sky "SK-1" [⟨0, 0.0, 0.0, 0.5, 4.0, 6.0, 90.0, 0.0⟩]
  time := (Moment.of? 2024 6 12 12 0 30).getD default

/-- After a first cycle, an air packet and a sky packet of one day complete the second with one snapshot, whichever comes
first. -/
theorem air_and_sky_in_either_order :
    let s := (opened {} {} []).ingestAll [airArrival, skyArrival]
    let ab := (s.ingested noonAir).station.ingested noonSky
    let ba := (s.ingested noonSky).station.ingested noonAir
    noonAir.time.date = noonSky.time.date ∧ s.trigger.isPending = false ∧
      ab.station.withoutTrigger = ba.station.withoutTrigger ∧ ∃ o, ab.snapshot? = some o ∧ ba.snapshot? = some o := by
  intro s ab ba
  have hday : noonAir.time.date = noonSky.time.date := by decide +kernel
  have hpending : s.trigger.isPending = false := by decide +kernel
  obtain ⟨hstations, hsnapshots⟩ := independent_packets_commute s noonAir noonSky hday trivial
  obtain ⟨-, -, ho⟩ := hsnapshots rfl rfl hpending
  exact ⟨hday, hpending, hstations, ho⟩

end Station

end WeatherRelay
