import Mathlib.Data.List.DropRight
import WeatherRelay.Averager

/-!
# What an interval's report is made of

After any offers an averager holds the sums of the observations offered since the last boundary and nothing else
(`offerAll_ofMinutes`), each of its sums at once (`Pending.of`). From this everything follows: what the next offer
returns and leaves pending, and that the observations offered off a boundary are dealt out among the reports, in order,
with none twice and none left out but those still pending.
-/

namespace WeatherRelay

/-- An observation, and the minute of the hour in which it is offered. -/
structure Offer (α : Type) where
  observation : Observation α
  minute : Nat

namespace Offer

variable {α : Type}

/-- Whether the minute ends an interval of so many minutes, of one at least. -/
def onBoundary (every : Nat) (o : Offer α) : Bool := decide (max every 1 ∣ o.minute)

/-- The observations offered off a boundary. -/
def samples (every : Nat) (offers : List (Offer α)) : List (Observation α) :=
  (offers.filter (!·.onBoundary every)).map (·.observation)

/-- The observations offered since the last offer on a boundary. -/
def samplesSince (every : Nat) (offers : List (Offer α)) : List (Observation α) :=
  (offers.rtakeWhile (!·.onBoundary every)).map (·.observation)

variable {every : Nat} {o : Offer α}

theorem samples_of_boundary (offers : List (Offer α)) (h : o.onBoundary every = true) :
    samples every (offers ++ [o]) = samples every offers := by
  simp [samples, h]

theorem samples_of_between (offers : List (Offer α)) (h : o.onBoundary every = false) :
    samples every (offers ++ [o]) = samples every offers ++ [o.observation] := by
  simp [samples, h]

theorem samplesSince_of_boundary (offers : List (Offer α)) (h : o.onBoundary every = true) :
    samplesSince every (offers ++ [o]) = [] := by
  rw [samplesSince, List.rtakeWhile_concat_neg _ _ _ (by simp [h]), List.map_nil]

theorem samplesSince_of_between (offers : List (Offer α)) (h : o.onBoundary every = false) :
    samplesSince every (offers ++ [o]) = samplesSince every offers ++ [o.observation] := by
  rw [samplesSince, List.rtakeWhile_concat_pos _ _ _ (by simp [h]), List.map_append, List.map_singleton, samplesSince]

end Offer

section

variable {α : Type} [Scalar α]

/-! ## The sums and the report of some observations -/

namespace Observation

/-- The sum of a quantity over observations. -/
def total (quantity : Observation α → α) (observations : List (Observation α)) : α :=
  Scalar.sum (observations.map quantity)

/-- The mean of a quantity over observations. -/
def mean (quantity : Observation α → α) (observations : List (Observation α)) : α :=
  total quantity observations / Scalar.count observations.length

/-- The strongest gust of observations, at least calm. -/
def strongestGust (observations : List (Observation α)) : α := (observations.map (·.gustSpeed)).foldl Scalar.larger 0

/-- The report of observations: means, the direction of the summed directions, the strongest gust, and for the rest the
last of the observations. There is none of no observations. -/
def average? (b : Bearing α) (observations : List (Observation α)) : Option (Observation α) :=
  observations.getLast?.map fun last =>
    { last with
      pressure := mean (·.pressure) observations
      seaLevelPressure := mean (·.seaLevelPressure) observations
      windSpeed := mean (·.windSpeed) observations
      windDirection :=
        b.mean (total (fun o => b.east o.windDirection) observations) (total (fun o => b.north o.windDirection) observations)
      temperature := mean (·.temperature) observations
      humidity := mean (·.humidity) observations
      dewPoint := mean (·.dewPoint) observations
      solar := mean (·.solar) observations
      gustSpeed := strongestGust observations }

theorem total_snoc (quantity : Observation α → α) (observations : List (Observation α)) (o : Observation α) :
    total quantity (observations ++ [o]) = total quantity observations + quantity o := by
  simp [total, Scalar.sum]

theorem strongestGust_snoc (observations : List (Observation α)) (o : Observation α) :
    strongestGust (observations ++ [o]) = Scalar.larger (strongestGust observations) o.gustSpeed := by
  simp [strongestGust]

theorem average?_eq_none_iff (b : Bearing α) (observations : List (Observation α)) :
    average? b observations = none ↔ observations = [] := by
  rw [average?, Option.map_eq_none_iff, List.getLast?_eq_none_iff]

end Observation

namespace Pending

open Observation (total strongestGust average?)

/-- What is pending when these observations were added to nothing. -/
def of (b : Bearing α) (observations : List (Observation α)) : Pending α where
  count := observations.length
  pressure := total (·.pressure) observations
  seaLevelPressure := total (·.seaLevelPressure) observations
  windSpeed := total (·.windSpeed) observations
  windEast := total (fun o => b.east o.windDirection) observations
  windNorth := total (fun o => b.north o.windDirection) observations
  temperature := total (·.temperature) observations
  humidity := total (·.humidity) observations
  dewPoint := total (·.dewPoint) observations
  solar := total (·.solar) observations
  gustSpeed := strongestGust observations
  latest := observations.getLast?

theorem of_nil (b : Bearing α) : of b [] = .none := rfl

theorem add_of (b : Bearing α) (observations : List (Observation α)) (o : Observation α) :
    (of b observations).add b o = of b (observations ++ [o]) := by
  simp only [of, add, Observation.total_snoc, Observation.strongestGust_snoc, List.length_append, List.length_singleton,
    List.getLast?_append, List.getLast?_singleton, Option.some_or]

theorem report?_of (b : Bearing α) (observations : List (Observation α)) :
    (of b observations).report? b = average? b observations := rfl

end Pending

/-! ## Any number of offers -/

namespace Averager

open Observation (average?)

/-- The averager after offers. -/
def offerAll (b : Bearing α) (a : Averager α) (offers : List (Offer α)) : Averager α :=
  offers.foldl (fun a o => (a.offer b o.observation o.minute).2) a

/-- What offers return, those that return nothing passed over. -/
def reports (b : Bearing α) (a : Averager α) : List (Offer α) → List (Observation α)
  | [] => []
  | o :: rest =>
    let offered := a.offer b o.observation o.minute
    offered.1.toList ++ offered.2.reports b rest

theorem offerAll_snoc (b : Bearing α) (a : Averager α) (offers : List (Offer α)) (o : Offer α) :
    a.offerAll b (offers ++ [o]) = ((a.offerAll b offers).offer b o.observation o.minute).2 :=
  List.foldl_concat ..

theorem reports_snoc (b : Bearing α) (a : Averager α) (offers : List (Offer α)) (o : Offer α) :
    a.reports b (offers ++ [o]) =
      a.reports b offers ++ ((a.offerAll b offers).offer b o.observation o.minute).1.toList := by
  induction offers generalizing a with
  | nil => simp [reports, offerAll]
  | cons first rest ih =>
    rw [List.cons_append, reports, ih, reports, List.append_assoc]
    rfl

/-- What an offer returns, and what it leaves, when what is pending are the sums of some observations. -/
theorem offer_of (b : Bearing α) (every : Nat) (pending : List (Observation α)) (o : Offer α) :
    (⟨max every 1, .of b pending⟩ : Averager α).offer b o.observation o.minute =
      if o.onBoundary every then (average? b pending, ⟨max every 1, .of b []⟩)
      else (none, ⟨max every 1, .of b (pending ++ [o.observation])⟩) := by
  have hboundary : (⟨max every 1, .of b pending⟩ : Averager α).isBoundary o.minute = o.onBoundary every := by
    rw [isBoundary, Offer.onBoundary, Bool.eq_iff_iff, beq_iff_eq, decide_eq_true_iff, Nat.dvd_iff_mod_eq_zero]
  rw [offer, hboundary, Pending.report?_of, Pending.add_of, Pending.of_nil]

theorem offer_of_fst (b : Bearing α) (every : Nat) (pending : List (Observation α)) (o : Offer α) :
    ((⟨max every 1, .of b pending⟩ : Averager α).offer b o.observation o.minute).1 =
      if o.onBoundary every then average? b pending else none := by
  rw [offer_of, apply_ite Prod.fst]

/-- An averager holds the sums of what was offered since the last boundary. -/
theorem offerAll_ofMinutes (b : Bearing α) (every : Nat) (offers : List (Offer α)) :
    (ofMinutes every).offerAll b offers = ⟨max every 1, .of b (Offer.samplesSince every offers)⟩ := by
  induction offers using List.reverseRecOn with
  | nil => rfl
  | append_singleton offers o ih =>
    rw [offerAll_snoc, ih, offer_of]
    cases ho : o.onBoundary every with
    | true => rw [Offer.samplesSince_of_boundary offers ho, if_pos rfl]
    | false => rw [Offer.samplesSince_of_between offers ho, if_neg Bool.false_ne_true]

/-- While 32 bits hold the number of observations that come between two boundaries, they hold the count of those pending. -/
theorem count_le (b : Bearing α) (every : Nat) {offers : List (Offer α)}
    (h : (Offer.samplesSince every offers).length ≤ Word.maxNat32) :
    ((ofMinutes every).offerAll b offers).pending.count ≤ Word.maxNat32 := by
  rw [offerAll_ofMinutes]
  exact h

/-- The observations offered off a boundary are dealt out among the reports, and the last of them are pending. -/
theorem reports_ofMinutes (b : Bearing α) (every : Nat) (offers : List (Offer α)) :
    ∃ intervals : List (List (Observation α)),
      intervals.flatten ++ Offer.samplesSince every offers = Offer.samples every offers ∧
        intervals.map (average? b) = ((ofMinutes every).reports b offers).map some := by
  induction offers using List.reverseRecOn with
  | nil => exact ⟨[], rfl, rfl⟩
  | append_singleton offers o ih =>
    obtain ⟨intervals, hsamples, hreports⟩ := ih
    rw [reports_snoc, offerAll_ofMinutes, offer_of]
    cases ho : o.onBoundary every with
    | false =>
      refine ⟨intervals, ?_, ?_⟩
      · rw [Offer.samplesSince_of_between offers ho, Offer.samples_of_between offers ho, ← List.append_assoc, hsamples]
      · simpa using hreports
    | true =>
      rw [Offer.samplesSince_of_boundary offers ho, Offer.samples_of_boundary offers ho, if_pos rfl]
      cases hreport : average? b (Offer.samplesSince every offers) with
      | none =>
        -- nothing was pending, and no interval comes to an end
        have hnothing : Offer.samplesSince every offers = [] := (Observation.average?_eq_none_iff b _).mp hreport
        exact ⟨intervals, by rw [← hsamples, hnothing], by simpa using hreports⟩
      | some r =>
        refine ⟨intervals ++ [Offer.samplesSince every offers], ?_, ?_⟩
        · rw [List.flatten_concat, hsamples, List.append_nil]
        · rw [List.map_append, hreports, List.map_singleton, hreport, List.map_append]
          rfl

/-- An offer in a minute that ends no interval returns nothing and adds one to what is pending. One in a minute that
ends an interval returns the report of exactly the observations offered since the last such minute, if there are any,
and leaves nothing pending; so the number that the sums of a report are divided by is never zero. Over all offers, each
observation offered in a minute that ends no interval is in one report or pending, and no other is in any. -/
theorem samples_are_averaged_once (b : Bearing α) (every : Nat) (offers : List (Offer α)) (o : Observation α) (minute : Nat) :
    let a := (ofMinutes every).offerAll b offers
    let since := Offer.samplesSince every offers
    let offered := a.offer b o minute
    a.pending.count = since.length ∧
      offered.1 = (if max every 1 ∣ minute then average? b since else none) ∧
      offered.2.pending.count = (if max every 1 ∣ minute then 0 else a.pending.count + 1) ∧
      (offered.1.isSome = true ↔ max every 1 ∣ minute ∧ a.pending.count ≠ 0) ∧
      ∃ intervals : List (List (Observation α)),
        intervals.flatten ++ since = Offer.samples every offers ∧
          intervals.map (average? b) = ((ofMinutes every).reports b offers).map some := by
  intro a since offered
  have ha : a = ⟨max every 1, .of b since⟩ := offerAll_ofMinutes b every offers
  have hcount : a.pending.count = since.length := by rw [ha]; rfl
  have hoffered : offered = if max every 1 ∣ minute then (average? b since, ⟨max every 1, .of b []⟩)
      else (none, ⟨max every 1, .of b (since ++ [o])⟩) := by
    have := offer_of b every since ⟨o, minute⟩
    simpa only [offered, ha, Offer.onBoundary, decide_eq_true_iff] using this
  refine ⟨hcount, ?_, ?_, ?_, reports_ofMinutes b every offers⟩
  · rw [hoffered, apply_ite Prod.fst]
  · rw [hoffered, hcount]
    split
    · rfl
    · exact List.length_append
  · rw [hoffered, hcount, ne_eq, List.length_eq_zero_iff, ← Observation.average?_eq_none_iff b, ← ne_eq,
      ← Option.isSome_iff_ne_none]
    split
    case isTrue hends => exact (and_iff_right hends).symm
    case isFalse hends => exact iff_of_false Bool.false_ne_true fun h => hends h.1

/-- Two boundaries after two samples: the second finds nothing to report, and neither observation made on them
is in the first report. -/
example :
    let warm (degrees : Rat) : Observation Rat := { Observation.empty with temperature := degrees }
    let offers : List (Offer Rat) := [⟨warm 10, 1⟩, ⟨warm 30, 3⟩, ⟨warm 99, 4⟩, ⟨warm 99, 4⟩]
    ((ofMinutes 2).reports ⟨id, id, fun east _ => east⟩ offers).map (·.temperature) = [20] := by
  decide +kernel

end Averager

end

end WeatherRelay
