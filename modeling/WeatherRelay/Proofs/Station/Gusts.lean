import WeatherRelay.Proofs.Doubles
import WeatherRelay.Proofs.Station.Coherence

/-!
# The held gust and the wind samples since its base

A gust tracker takes in samples of summaries, which count, and of instants, which do not. Every thirtieth summary sample
becomes the base of what is held after it; before the first such there is the base of no wind. Since its base, whatever
came in between, the tracker holds the earliest of the strongest samples (`strongest_since_base`), and it counts the
summaries modulo thirty (`count_takeAll`). A station's tracker takes in its sky rows as summaries and its wind samples
as instants (`gust_ingestAll`).
-/

namespace WeatherRelay

/-- A wind sample as a tracker takes it in: the sample of a summary, or that of an instant. -/
inductive WindStep where
  | summary (sample : Gust)
  | instant (sample : Gust)

namespace WindStep

/-- The sample of a step. -/
def sample : WindStep → Gust
  | .summary g => g
  | .instant g => g

/-- Whether a step is a summary. -/
def isSummary : WindStep → Bool
  | .summary _ => true
  | .instant _ => false

/-- The number of summaries among steps. -/
def summaries (steps : List WindStep) : Nat := steps.countP (·.isSummary)

/-- The base of steps and the steps since: a summary whose ordinal is a multiple of thirty, or no wind before all steps.
Fewer than thirty summaries came since, so there is no later one whose ordinal is a multiple of thirty. -/
structure SinceBase (steps : List WindStep) (base : Gust) (since : List WindStep) : Prop where
  few : summaries since < GustTracker.interval
  split : base = {} ∧ since = steps ∨
    ∃ before, steps = before ++ .summary base :: since ∧ GustTracker.interval ∣ summaries before + 1

theorem summaries_append (steps more : List WindStep) : summaries (steps ++ more) = summaries steps + summaries more :=
  List.countP_append ..

theorem summaries_cons_summary (g : Gust) (steps : List WindStep) : summaries (.summary g :: steps) = summaries steps + 1 := by
  simp [summaries, isSummary]

/-- Since the base the summaries are counted anew. -/
theorem SinceBase.summaries_eq {steps since : List WindStep} {base : Gust} (h : SinceBase steps base since) :
    summaries steps % GustTracker.interval = summaries since := by
  obtain ⟨hfew, ⟨-, rfl⟩ | ⟨before, rfl, hbefore⟩⟩ := h
  · exact Nat.mod_eq_of_lt hfew
  · rw [summaries_append, summaries_cons_summary, show summaries before + (summaries since + 1) =
      summaries before + 1 + summaries since by omega, Nat.add_mod, Nat.mod_eq_zero_of_dvd hbefore, Nat.zero_add, Nat.mod_mod]
    exact Nat.mod_eq_of_lt hfew

/-- A step that ends no interval leaves the base as it is. -/
theorem SinceBase.snoc {steps since : List WindStep} {base : Gust} (h : SinceBase steps base since) (s : WindStep)
    (hfew : summaries (since ++ [s]) < GustTracker.interval) : SinceBase (steps ++ [s]) base (since ++ [s]) := by
  refine ⟨hfew, h.split.imp ?_ ?_⟩
  · rintro ⟨hbase, rfl⟩
    exact ⟨hbase, rfl⟩
  · rintro ⟨before, rfl, hbefore⟩
    exact ⟨before, by simp, hbefore⟩

/-- Where the speeds of all samples are numbers, so are those of the base and of the samples since. -/
theorem SinceBase.numbers {steps since : List WindStep} {base : Gust} (h : SinceBase steps base since)
    (hnumbers : ∀ s ∈ steps, s.sample.speed.isNaN = false) :
    ∀ g ∈ base :: since.map (·.sample), g.speed.isNaN = false := by
  simp only [List.forall_mem_cons, List.forall_mem_map]
  obtain ⟨-, ⟨rfl, rfl⟩ | ⟨before, rfl, -⟩⟩ := h
  · exact ⟨by decide, hnumbers⟩
  · exact ⟨hnumbers (.summary base) (by simp), fun s hs => hnumbers s (by simp [hs])⟩

/-- There always is a base. -/
theorem exists_sinceBase (steps : List WindStep) : ∃ base since, SinceBase steps base since := by
  induction steps using List.reverseRecOn with
  | nil => exact ⟨{}, [], by decide, Or.inl ⟨rfl, rfl⟩⟩
  | append_singleton steps s ih =>
    obtain ⟨base, since, h⟩ := ih
    have hsince := summaries_append since [s]
    cases s with
    | instant g => exact ⟨base, since ++ [.instant g], h.snoc _ (hsince ▸ h.few)⟩
    | summary g =>
      by_cases hends : GustTracker.interval ∣ summaries steps + 1
      · exact ⟨g, [], by decide, Or.inr ⟨steps, rfl, hends⟩⟩
      · refine ⟨base, since ++ [.summary g], h.snoc _ ?_⟩
        have hfew := h.few
        have hmod := h.summaries_eq
        have hone : summaries [.summary g] = 1 := rfl
        simp only [GustTracker.interval] at *
        omega

end WindStep

namespace Gust

/-- That a sample is the earliest of the strongest among samples: those before it are weaker, those
after it not stronger. -/
def IsEarliestStrongest (g : Gust) (samples : List Gust) : Prop :=
  ∃ earlier later, samples = earlier ++ g :: later ∧ (∀ s ∈ earlier, s.speed < g.speed) ∧ ∀ s ∈ later, s.speed ≤ g.speed

theorem IsEarliestStrongest.mem {g : Gust} {samples : List Gust} (h : g.IsEarliestStrongest samples) : g ∈ samples := by
  obtain ⟨earlier, later, rfl, -, -⟩ := h
  simp

theorem IsEarliestStrongest.le {g : Gust} {samples : List Gust} (h : g.IsEarliestStrongest samples)
    (hg : g.speed.isNaN = false) : ∀ s ∈ samples, s.speed ≤ g.speed := by
  obtain ⟨earlier, later, rfl, hearlier, hlater⟩ := h
  intro s hs
  rcases List.mem_append.mp hs with hs | hs
  · exact Double.le_of_lt (hearlier s hs)
  · rcases List.mem_cons.mp hs with rfl | hs
    · exact Double.le_refl hg
    · exact hlater s hs

/-- A sample that is stronger than the strongest takes its place. -/
theorem IsEarliestStrongest.snoc_stronger {g x : Gust} {samples : List Gust} (h : g.IsEarliestStrongest samples)
    (hx : g.speed < x.speed) : x.IsEarliestStrongest (samples ++ [x]) := by
  obtain ⟨earlier, later, rfl, hearlier, hlater⟩ := h
  refine ⟨earlier ++ g :: later, [], rfl, ?_, by simp⟩
  intro s hs
  rcases List.mem_append.mp hs with hs | hs
  · exact Double.lt_of_le_of_lt (Double.le_of_lt (hearlier s hs)) hx
  · rcases List.mem_cons.mp hs with rfl | hs
    · exact hx
    · exact Double.lt_of_le_of_lt (hlater s hs) hx

/-- A sample that is not stronger changes nothing. -/
theorem IsEarliestStrongest.snoc_weaker {g x : Gust} {samples : List Gust} (h : g.IsEarliestStrongest samples)
    (hx : x.speed ≤ g.speed) : g.IsEarliestStrongest (samples ++ [x]) := by
  obtain ⟨earlier, later, rfl, hearlier, hlater⟩ := h
  refine ⟨earlier, later ++ [x], by simp, hearlier, ?_⟩
  intro s hs
  rcases List.mem_append.mp hs with hs | hs
  · exact hlater s hs
  · rwa [List.mem_singleton.mp hs]

end Gust

namespace GustTracker

open WindStep (summaries)

theorem interval_pos : 0 < interval := by decide

/-- The tracker after a step. -/
def take (t : GustTracker) : WindStep → GustTracker
  | .summary g => t.observe g
  | .instant g => t.hold g

/-- The tracker after steps. -/
def takeAll (t : GustTracker) (steps : List WindStep) : GustTracker := steps.foldl take t

theorem takeAll_append (t : GustTracker) (steps more : List WindStep) :
    t.takeAll (steps ++ more) = (t.takeAll steps).takeAll more := List.foldl_append ..

theorem hold_count (t : GustTracker) (g : Gust) : (t.hold g).count = t.count := by
  unfold hold
  split <;> rfl

theorem observe_count (t : GustTracker) (g : Gust) (ht : t.count < interval) :
    (t.observe g).count = (t.count + 1) % interval := by
  unfold observe
  split
  · rename_i hgoes
    exact (Nat.mod_eq_of_lt hgoes).symm
  · rename_i hends
    have hfull : t.count + 1 = interval := Nat.le_antisymm ht (Nat.le_of_not_lt hends)
    rw [hfull, Nat.mod_self]

/-- The summary that ends an interval is held outright. -/
theorem observe_of_ends (t : GustTracker) (g : Gust) (h : ¬t.count + 1 < interval) : t.observe g = ⟨g, 0⟩ := if_neg h

/-- Every summary is counted and no instant, and thirty make an interval. -/
theorem count_takeAll (t : GustTracker) (ht : t.count < interval) (steps : List WindStep) :
    (t.takeAll steps).count = (t.count + summaries steps) % interval := by
  induction steps using List.reverseRecOn with
  | nil => exact (Nat.mod_eq_of_lt ht).symm
  | append_singleton steps s ih =>
    rw [takeAll_append, WindStep.summaries_append]
    cases s with
    | instant g => exact (hold_count _ g).trans ih
    | summary g =>
      have hbelow : (t.takeAll steps).count < interval := ih ▸ Nat.mod_lt _ interval_pos
      have hcount : ((t.takeAll steps).observe g).count = _ := observe_count _ g hbelow
      rw [ih, Nat.mod_add_mod] at hcount
      exact hcount

/-- What is held after a step that ends no interval. -/
theorem take_held (t : GustTracker) (s : WindStep) (h : t.count + summaries [s] < interval) :
    (t.take s).held = (t.hold s.sample).held := by
  cases s with
  | instant g => rfl
  | summary g =>
    have hgoes : t.count + 1 < interval := h
    rw [take, observe, if_pos hgoes]
    rfl

/-- From a base on, the earliest of the strongest samples is held, until an interval ends. -/
theorem held_takeAll (base : Gust) (since : List WindStep) (hfew : summaries since < interval)
    (hnumbers : ∀ g ∈ base :: since.map (·.sample), g.speed.isNaN = false) :
    ((⟨base, 0⟩ : GustTracker).takeAll since).held.IsEarliestStrongest (base :: since.map (·.sample)) := by
  induction since using List.reverseRecOn with
  | nil => exact ⟨[], [], rfl, by simp, by simp⟩
  | append_singleton since s ih =>
    rw [WindStep.summaries_append] at hfew
    simp only [List.map_append, List.map_cons, List.map_nil, ← List.cons_append] at hnumbers ⊢
    have hheld := ih (by omega) fun g hg => hnumbers g (List.mem_append_left _ hg)
    have hcount := count_takeAll ⟨base, 0⟩ interval_pos since
    rw [Nat.zero_add, Nat.mod_eq_of_lt (by omega)] at hcount
    have htake := take_held ((⟨base, 0⟩ : GustTracker).takeAll since) s (by omega)
    rw [takeAll_append]
    refine (congrArg (Gust.IsEarliestStrongest · _) htake).mpr ?_
    unfold hold
    split
    · rename_i hstronger
      exact hheld.snoc_stronger hstronger
    · rename_i hweaker
      have hnumber := hnumbers _ (List.mem_append_left _ hheld.mem)
      exact hheld.snoc_weaker (Double.le_of_not_lt hnumber (hnumbers _ (by simp)) hweaker)

/-- A tracker that has taken in steps is as one that began with their base and took in those since. -/
theorem takeAll_of_sinceBase {steps since : List WindStep} {base : Gust} (h : WindStep.SinceBase steps base since) :
    ({} : GustTracker).takeAll steps = (⟨base, 0⟩ : GustTracker).takeAll since := by
  obtain ⟨-, ⟨rfl, rfl⟩ | ⟨before, rfl, hbefore⟩⟩ := h
  · rfl
  · have hcount := count_takeAll {} interval_pos before
    have hends : ¬(({} : GustTracker).takeAll before).count + 1 < interval := by
      rw [hcount]
      simp only [interval] at hbefore ⊢
      omega
    rw [takeAll_append]
    exact congrArg (takeAll · since) (observe_of_ends _ base hends)

/-- A fresh tracker holds the earliest of the strongest samples among the base of what it has taken in
and all samples since. -/
theorem held_of_sinceBase {steps since : List WindStep} {base : Gust}
    (hnumbers : ∀ s ∈ steps, s.sample.speed.isNaN = false) (h : WindStep.SinceBase steps base since) :
    (({} : GustTracker).takeAll steps).held.IsEarliestStrongest (base :: since.map (·.sample)) := by
  rw [takeAll_of_sinceBase h]
  exact held_takeAll base since h.few (h.numbers hnumbers)

/-- A fresh tracker counts the summaries modulo thirty, and no instant; it holds the earliest of the strongest samples
among the base and all samples since. So nothing stronger since the base is lost, and the summary whose ordinal is a
multiple of thirty, being the base, is held however strong the gust before it was. -/
theorem holds_strongest_since_base (steps : List WindStep) (hnumbers : ∀ s ∈ steps, s.sample.speed.isNaN = false) :
    let t := ({} : GustTracker).takeAll steps
    t.count = summaries steps % interval ∧
      (∃ base since, WindStep.SinceBase steps base since) ∧
      (∀ base since, WindStep.SinceBase steps base since →
        t.held.IsEarliestStrongest (base :: since.map (·.sample)) ∧ ∀ s ∈ since, s.sample.speed ≤ t.held.speed) ∧
      (∀ g, (t.hold g).count = t.count) ∧
      ∀ g, interval ∣ summaries steps + 1 → (t.observe g).held = g := by
  intro t
  have hcount : t.count = summaries steps % interval := by
    have h := count_takeAll {} interval_pos steps
    rwa [Nat.zero_add] at h
  refine ⟨hcount, WindStep.exists_sinceBase steps, ?_, hold_count t, ?_⟩
  · intro base since h
    have hheld := held_of_sinceBase hnumbers h
    refine ⟨hheld, fun s hs => ?_⟩
    exact hheld.le (h.numbers hnumbers _ hheld.mem) _ (List.mem_cons_of_mem _ (List.mem_map_of_mem hs))
  · intro g hends
    rw [observe_of_ends]
    rw [hcount]
    simp only [interval] at hends ⊢
    omega

/-- Twenty-nine strong summaries, an instant stronger still, the thirtieth summary, which is weak, and
two instants after it. -/
def weakThirtieth : List WindStep :=
  List.replicate 29 (.summary ⟨20.0, 90.0⟩) ++
    [.instant ⟨25.0, 100.0⟩, .summary ⟨3.0, 180.0⟩, .instant ⟨5.0, 200.0⟩, .instant ⟨5.0, 210.0⟩]

/-- The thirtieth summary is the base, however weak, and the earlier of the two instants after it is the strongest
since. -/
theorem weak_thirtieth_is_base :
    let t := ({} : GustTracker).takeAll weakThirtieth
    t.count = 0 ∧ t.held.IsEarliestStrongest [⟨3.0, 180.0⟩, ⟨5.0, 200.0⟩, ⟨5.0, 210.0⟩] ∧ t.held.direction = 200.0 := by
  intro t
  obtain ⟨hcount, -, hheld, -, -⟩ := holds_strongest_since_base weakThirtieth (by decide +kernel)
  have hbase : WindStep.SinceBase weakThirtieth ⟨3.0, 180.0⟩ [.instant ⟨5.0, 200.0⟩, .instant ⟨5.0, 210.0⟩] :=
    ⟨by decide, Or.inr ⟨List.replicate 29 (.summary ⟨20.0, 90.0⟩) ++ [.instant ⟨25.0, 100.0⟩], rfl, by decide⟩⟩
  exact ⟨hcount.trans (by decide), (hheld _ _ hbase).1, by decide +kernel⟩

end GustTracker

/-! ## The gust of a station -/

/-- What a reading tells of the wind: a sky row is a summary, a wind sample an instant. -/
def Reading.windStep? : Reading → Option WindStep
  | .sky r => some (.summary ⟨r.gustSpeed, r.windDirection⟩)
  | .wind w => some (.instant ⟨w.speed, w.direction⟩)
  | _ => none

/-- What readings tell of the wind, in order. -/
def windSteps (readings : List Reading) : List WindStep := readings.filterMap Reading.windStep?

theorem windSteps_snoc (readings : List Reading) (x : Reading) :
    windSteps (readings ++ [x]) = windSteps readings ++ x.windStep?.toList := by
  cases x <;> simp [windSteps, Reading.windStep?]

namespace Station

variable (info : StationInfo) (gauge : Rainfall.Gauge) (places : SensorPlaces) (zone : Zone)

/-- A station's tracker has taken in what its readings told of the wind. -/
theorem gust_ingestAll (arrivals : List Arrival) :
    ((opened info gauge places zone).ingestAll arrivals).gust =
      ({} : GustTracker).takeAll (windSteps (Arrival.readings arrivals)) := by
  refine history_induct (s := opened info gauge places zone)
    (P := fun all _ s => s.gust = ({} : GustTracker).takeAll (windSteps all)) rfl rfl ?_ ?_ ?_ arrivals
  · intro all today s now x h
    rw [windSteps_snoc, GustTracker.takeAll_append, ← h]
    cases x with
    | tower serial r =>
      obtain ⟨sensors, htower⟩ := s.applyTower_eq serial r
      rw [read, htower]
      rfl
    | _ => rfl
  · exact fun _ _ _ h => h
  · exact fun _ _ _ _ _ h => h

/-- The gust that a station shows after any packets is the earliest of the strongest since the base
of its wind readings. -/
theorem shows_strongest_since_base (arrivals : List Arrival) {base : Gust} {since : List WindStep}
    (hnumbers : ∀ s ∈ windSteps (Arrival.readings arrivals), s.sample.speed.isNaN = false)
    (h : WindStep.SinceBase (windSteps (Arrival.readings arrivals)) base since) :
    let live := ((opened info gauge places zone).ingestAll arrivals).live
    (⟨live.gustSpeed, live.gustDirection⟩ : Gust).IsEarliestStrongest (base :: since.map (·.sample)) := by
  intro live
  obtain ⟨hspeed, hdirection⟩ := (coherent_ingestAll info gauge places zone arrivals).gust
  have hheld : (⟨live.gustSpeed, live.gustDirection⟩ : Gust) =
      (({} : GustTracker).takeAll (windSteps (Arrival.readings arrivals))).held := by
    rw [hspeed, hdirection, gust_ingestAll]
  rw [hheld]
  exact GustTracker.held_of_sinceBase hnumbers h

end Station

end WeatherRelay
