import Mathlib.Algebra.Field.Rat
import Mathlib.Algebra.Order.Field.Rat
import Mathlib.Tactic.FieldSimp
import Mathlib.Tactic.Ring
import WeatherRelay.Proofs.Averager

/-!
# Averages of converted observations

Over exact numbers it makes no difference whether observations are converted before they are averaged or their report
after. Each quantity has its own reason: means go along with every affine change (`mean_affine`), the strongest gust
with every positive factor (`strongestGust_toImperial`), and the rest are the quantities of the last observation,
converted (`average?_toImperial`). A conversion moves no offer to another minute, so an averager that is offered
converted observations answers every offer with the conversion of what it would have answered (`answers_convert`).
-/

namespace WeatherRelay

/-! ## Some observations -/

namespace Observation

section

variable {α : Type} [Scalar α]

theorem total_map (quantity : Observation α → α) (convert : Observation α → Observation α)
    (observations : List (Observation α)) :
    total quantity (observations.map convert) = total (fun o => quantity (convert o)) observations := by
  simp only [total, List.map_map]
  rfl

theorem mean_map (quantity : Observation α → α) (convert : Observation α → Observation α)
    (observations : List (Observation α)) :
    mean quantity (observations.map convert) = mean (fun o => quantity (convert o)) observations := by
  rw [mean, total_map, List.length_map, mean]

end

/-- An exact total after the same affine change of every number. -/
theorem total_affine (quantity : Observation Rat → Rat) (a b : Rat) (observations : List (Observation Rat)) :
    total (fun o => quantity o * a + b) observations = total quantity observations * a + observations.length * b := by
  induction observations using List.reverseRecOn with
  | nil =>
    show (0 : Rat) = 0 * a + ((0 : Nat) : Rat) * b
    ring
  | append_singleton observations o ih =>
    rw [total_snoc, total_snoc, ih, List.length_append, List.length_singleton, Nat.cast_add, Nat.cast_one]
    ring

/-- The mean of exact numbers goes along with an affine change. -/
theorem mean_affine (quantity : Observation Rat → Rat) (a b : Rat) {observations : List (Observation Rat)}
    (h : observations ≠ []) :
    mean (fun o => quantity o * a + b) observations = mean quantity observations * a + b := by
  have hcount : (observations.length : Rat) ≠ 0 := Nat.cast_ne_zero.mpr (List.length_eq_zero_iff.not.mpr h)
  show total _ observations / ((observations.length : Int) : Rat) =
    total quantity observations / ((observations.length : Int) : Rat) * a + b
  rw [total_affine, Int.cast_natCast]
  field_simp

theorem mean_fahrenheit (quantity : Observation Rat → Rat) {observations : List (Observation Rat)} (h : observations ≠ []) :
    mean (fun o => Units.fahrenheit (quantity o)) observations = Units.fahrenheit (mean quantity observations) :=
  mean_affine quantity 1.8 32.0 h

theorem mean_mul (quantity : Observation Rat → Rat) (a : Rat) {observations : List (Observation Rat)} (h : observations ≠ []) :
    mean (fun o => quantity o * a) observations = mean quantity observations * a := by
  have hmean := mean_affine quantity a 0 h
  simpa only [add_zero] using hmean

theorem mean_milesPerHour (quantity : Observation Rat → Rat) {observations : List (Observation Rat)} (h : observations ≠ []) :
    mean (fun o => Units.milesPerHour (quantity o)) observations = Units.milesPerHour (mean quantity observations) := by
  have hmean := mean_mul quantity (0.44704)⁻¹ h
  simp only [← div_eq_mul_inv] at hmean
  exact hmean

theorem mean_convertPressure (c : Conversion) (quantity : Observation Rat → Rat) {observations : List (Observation Rat)}
    (h : observations ≠ []) :
    mean (fun o => convertPressure c (quantity o)) observations = convertPressure c (mean quantity observations) := by
  cases c with
  | all => exact mean_mul quantity _ h
  | keepPressure => rfl

/-- The larger of two speeds is the larger one in miles per hour. -/
theorem milesPerHour_larger (x y : Rat) :
    Units.milesPerHour (Scalar.larger x y) = Scalar.larger (Units.milesPerHour x) (Units.milesPerHour y) := by
  have hlt : x / 0.44704 < y / 0.44704 ↔ x < y := div_lt_div_iff_of_pos_right (by decide +kernel)
  show (if x < y then y else x) / 0.44704 = if x / 0.44704 < y / 0.44704 then y / 0.44704 else x / 0.44704
  rw [apply_ite (· / (0.44704 : Rat))]
  simp only [hlt]

theorem strongestGust_toImperial (c : Conversion) (observations : List (Observation Rat)) :
    strongestGust (observations.map (toImperial c)) = Units.milesPerHour (strongestGust observations) := by
  induction observations using List.reverseRecOn with
  | nil => exact (zero_div (0.44704 : Rat)).symm
  | append_singleton observations o ih =>
    rw [List.map_append, List.map_singleton, strongestGust_snoc, strongestGust_snoc, ih, milesPerHour_larger]
    rfl

/-- Averaging exact numbers after a conversion or before it comes to the same. -/
theorem average?_toImperial (b : Bearing Rat) (c : Conversion) (observations : List (Observation Rat)) :
    average? b (observations.map (toImperial c)) = (average? b observations).map (toImperial c) := by
  cases hlast : observations.getLast? with
  | none =>
    rw [List.getLast?_eq_none_iff.mp hlast]
    rfl
  | some last =>
    have hsome : observations ≠ [] := by
      rintro rfl
      cases hlast
    simp only [average?, List.getLast?_map, hlast, Option.map_some, mean_map, total_map, strongestGust_toImperial]
    simp only [toImperial, mean_fahrenheit _ hsome, mean_milesPerHour _ hsome, mean_convertPressure _ _ hsome]

end Observation

namespace Offer

variable {α : Type}

/-- The offer of a converted observation. -/
def convert (f : Observation α → Observation α) (o : Offer α) : Offer α := ⟨f o.observation, o.minute⟩

/-- A conversion does not move an offer to another interval. -/
theorem samplesSince_convert (every : Nat) (f : Observation α → Observation α) (offers : List (Offer α)) :
    samplesSince every (offers.map (convert f)) = (samplesSince every offers).map f := by
  simp only [samplesSince, List.rtakeWhile, ← List.map_reverse, List.takeWhile_map, List.map_map]
  rfl

end Offer

/-! ## Any number of offers -/

namespace Averager

section

variable {α : Type} [Scalar α]

/-- What each of the offers returns. -/
def answers (b : Bearing α) (a : Averager α) : List (Offer α) → List (Option (Observation α))
  | [] => []
  | o :: rest =>
    let offered := a.offer b o.observation o.minute
    offered.1 :: offered.2.answers b rest

theorem answers_snoc (b : Bearing α) (a : Averager α) (offers : List (Offer α)) (o : Offer α) :
    a.answers b (offers ++ [o]) = a.answers b offers ++ [((a.offerAll b offers).offer b o.observation o.minute).1] := by
  induction offers generalizing a with
  | nil => rfl
  | cons first rest ih =>
    rw [List.cons_append, answers, ih, answers, List.cons_append]
    rfl

end

/-- Averaging exact numbers goes along with their conversion: an averager that is offered converted observations returns
something at the same offers, and what it returns is the conversion of what it returns when it is offered the
observations as they are. -/
theorem answers_convert (b : Bearing Rat) (every : Nat) (c : Conversion) (offers : List (Offer Rat)) :
    (ofMinutes every).answers b (offers.map (·.convert (·.toImperial c))) =
      ((ofMinutes every).answers b offers).map fun answer => answer.map (·.toImperial c) := by
  induction offers using List.reverseRecOn with
  | nil => rfl
  | append_singleton offers o ih =>
    have hboundary : (o.convert (·.toImperial c)).onBoundary every = o.onBoundary every := rfl
    simp only [List.map_append, List.map_singleton, answers_snoc, ih, offerAll_ofMinutes, offer_of_fst, hboundary,
      Offer.samplesSince_convert, Observation.average?_toImperial]
    split <;> rfl

/-- Two gusts, and two boundaries of which the second has nothing to report. -/
example :
    let gusty (speed : Rat) : Observation Rat := { Observation.empty with gustSpeed := speed, temperature := speed }
    let offers : List (Offer Rat) := [⟨gusty 10, 1⟩, ⟨gusty 30, 3⟩, ⟨gusty 99, 4⟩, ⟨gusty 99, 4⟩]
    ((ofMinutes 2).answers ⟨id, id, fun east _ => east⟩ (offers.map (·.convert (·.toImperial .all)))).map
      (·.map fun o => (o.temperature, o.gustSpeed)) = [none, none, some (68, 30 / 0.44704), none] := by
  decide +kernel

end Averager

end WeatherRelay
