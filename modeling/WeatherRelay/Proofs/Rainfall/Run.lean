import Mathlib.Data.List.Induction
import WeatherRelay.Rainfall.Accumulator

/-!
# Runs of the accumulator

Rain as it comes in, one amount after another, and the sum that a window or a slot makes of what it is given: it begins
with the first amount, not with zero, so it is the same sum for machine doubles and for exact numbers.
-/

namespace WeatherRelay.Rainfall

variable {α : Type} [Scalar α]

/-- An amount of rain, and the moment at which it was measured. -/
structure Rain (α : Type) where
  amount : α
  time : Moment

/-- The sum from the left of a list, begun with its first element; nothing for an empty list. -/
def leftSum : List α → α
  | [] => 0
  | x :: rest => rest.foldl (· + ·) x

theorem leftSum_snoc {xs : List α} (h : xs ≠ []) (x : α) : leftSum (xs ++ [x]) = leftSum xs + x := by
  cases xs with
  | nil => exact absurd rfl h
  | cons y rest => simp [leftSum]

/-- The amounts of rain, added from the left. -/
def rainSum (rains : List (Rain α)) : α := leftSum (rains.map (·.amount))

theorem rainSum_singleton (r : Rain α) : rainSum [r] = r.amount := rfl

theorem rainSum_snoc {rains : List (Rain α)} (h : rains ≠ []) (r : Rain α) :
    rainSum (rains ++ [r]) = rainSum rains + r.amount := by
  simp only [rainSum, List.map_append, List.map_cons, List.map_nil]
  exact leftSum_snoc (by simpa using h) _

namespace Accumulator

/-- The accumulator after rain has come in, one amount after another. -/
def addAll (a : Accumulator α) (rains : List (Rain α)) : Accumulator α := rains.foldl (fun a r => a.add r.amount r.time) a

theorem addAll_snoc (a : Accumulator α) (rains : List (Rain α)) (r : Rain α) :
    a.addAll (rains ++ [r]) = (a.addAll rains).add r.amount r.time := by
  simp [addAll]

/-! ## What one amount changes -/

theorem add_window (a : Accumulator α) (amount : α) (now : Moment) (p : Period) :
    (a.add amount now).windows.get p = (a.windows.get p).add p amount now := by
  simp [add]

theorem empty_window (p : Period) : (empty : Accumulator α).windows.get p = Window.empty := by
  simp [empty]

theorem totalsAt_window (a : Accumulator α) (now : Moment) (p : Period) :
    (a.totalsAt now).windows.get p = (a.windows.get p).current p now := by
  simp [totalsAt]

end Accumulator

end WeatherRelay.Rainfall
