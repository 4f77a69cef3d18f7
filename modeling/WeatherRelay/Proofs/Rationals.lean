import Mathlib.Algebra.Order.Floor.Semifield
import Mathlib.Data.Rat.Floor
import Mathlib.Tactic.Linarith
import WeatherRelay.Scalar

/-!
# Formulas over exact numbers

The roundings that formulas use (`Scalar`) are floors when they are read over the rationals.
-/

namespace WeatherRelay.Scalar

/-- The whole part of a magnitude. -/
theorem whole_eq_floor {a : Rat} (ha : 0 ≤ a) : whole a = (⌊a⌋₊ : Rat) := by
  rw [natCast_floor_eq_intCast_floor ha, Rat.floor_def', ← Int.tdiv_eq_ediv_of_nonneg (Rat.num_nonneg.mpr ha)]
  rfl

/-- The nearest whole number of a magnitude. -/
theorem round_eq_floor {a : Rat} (ha : 0 ≤ a) : round a = (⌊a + 1 / 2⌋₊ : Rat) := by
  rw [natCast_floor_eq_intCast_floor (by linarith)]
  exact if_neg (not_lt.mpr ha)

/-- The whole part of a magnitude, where it is no more than the bound. -/
theorem truncate_eq_floor {a : Rat} {bound : Nat} (ha : 0 ≤ a) (h : ⌊a⌋₊ ≤ bound) : truncate 0 bound a = ⌊a⌋₊ := by
  have hexact : exact a = .finite false a.num.natAbs a.den := by
    show Decimal.Exact.finite (decide (a < 0)) a.num.natAbs a.den = _
    rw [decide_eq_false (not_lt.mpr ha)]
  have hquotient : a.num.natAbs / a.den = ⌊a⌋₊ := by
    have hvalue : (a.num.natAbs : Rat) / a.den = a := by
      rw [Nat.cast_natAbs, abs_of_nonneg (Rat.num_nonneg.mpr ha), Rat.num_div_den]
    rw [← Nat.floor_div_eq_div (K := Rat), hvalue]
  rw [truncate, hexact, Decimal.Exact.truncate, Decimal.Exact.toWhole, hquotient]
  simp only [Bool.false_eq_true, if_false]
  omega

/-- A natural that is no more than the bound is kept. -/
theorem truncate_natural {n bound : Nat} (h : n ≤ bound) : truncate 0 bound (n : Rat) = n := by
  have hfloor := truncate_eq_floor (Nat.cast_nonneg n) (by rwa [Nat.floor_natCast] : ⌊(n : Rat)⌋₊ ≤ bound)
  rwa [Nat.floor_natCast] at hfloor

/-- A remainder is what is left of a number after some whole number of periods, and less than one. -/
theorem wrap_spec {period : Nat} (hperiod : 0 < period) (a : Rat) :
    wrap a period = a - period * ⌊a / period⌋ ∧ 0 ≤ wrap a period ∧ wrap a period < period := by
  have heq : wrap a period = a - period * ⌊a / period⌋ := rfl
  have hcast : (0 : Rat) < period := by exact_mod_cast hperiod
  have hlow := Int.floor_le (a / period)
  have hhigh := Int.lt_floor_add_one (a / period)
  rw [le_div_iff₀ hcast] at hlow
  rw [div_lt_iff₀ hcast] at hhigh
  rw [heq]
  refine ⟨rfl, ?_, ?_⟩ <;> linarith

end WeatherRelay.Scalar
