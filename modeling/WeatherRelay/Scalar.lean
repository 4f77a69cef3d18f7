import WeatherRelay.Decimal.Basic

/-!
# The numbers that readings are made of

The service computes with machine doubles. The same formulas read over the exact rationals say what they mean, so every
formula that a law speaks of is written once, over any `Scalar`.
-/

namespace WeatherRelay

/-- Arithmetic with literals, an order, and the few roundings that the formulas use. -/
class Scalar (α : Type) extends Add α, Sub α, Mul α, Div α, Zero α, OfScientific α, LT α, LE α where
  decLt : (a b : α) → Decidable (a < b)
  decLe : (a b : α) → Decidable (a ≤ b)
  /-- The magnitude. -/
  abs : α → α
  /-- The whole part, toward zero. -/
  whole : α → α
  /-- The nearest whole number, a half going away from zero. -/
  round : α → α
  /-- The remainder in `[0, period)`. -/
  wrap : α → Nat → α
  /-- The larger of two, where a value that is no number loses. -/
  larger : α → α → α
  /-- The smaller of two, where a value that is no number loses. -/
  smaller : α → α → α
  /-- A count as a number. -/
  count : Nat → α
  /-- The value that decimal text is rounded from. -/
  exact : α → Decimal.Exact

attribute [reducible, instance] Scalar.decLt Scalar.decLe

namespace Scalar

variable {α : Type} [Scalar α]

/-- The whole part kept within `lo` and `hi`; what is no number counts as zero. -/
def truncate (lo hi : Int) (x : α) : Int := (exact x).truncate lo hi

/-- The nearest whole number kept within `lo` and `hi`; what is no number counts as zero. -/
def nearest (lo hi : Int) (x : α) : Int := (exact x).nearest lo hi

/-- The sum of a list, from the left. -/
def sum (xs : List α) : α := xs.foldl (· + ·) 0

end Scalar

/-- The exact remainder of a double, before a negative one is raised by the period. -/
def floatRemainder (x : Float) (period : Nat) : Float :=
  match Decimal.ofFloat x with
  | .finite negative num den =>
    if num < period * den then x
    else
      let rest := Float.ofNat (num % (period * den)) / Float.ofNat den
      if negative then -rest else rest
  | _ => 0.0 / 0.0

instance : Scalar Float where
  zero := 0.0
  decLt := Float.decLt
  decLe := Float.decLe
  abs := Float.abs
  whole x := if x < 0.0 then x.ceil else x.floor
  round := Float.round
  wrap x period :=
    let rest := floatRemainder x period
    if rest < 0.0 then rest + Float.ofNat period else rest
  larger a b := if a < b || a.isNaN then b else a
  smaller a b := if b < a || a.isNaN then b else a
  count := Float.ofNat
  exact := Decimal.ofFloat

instance : Scalar Rat where
  zero := (0 : Rat)
  decLt a b := inferInstanceAs (Decidable (a < b))
  decLe a b := inferInstanceAs (Decidable (a ≤ b))
  abs a := if a < 0 then -a else a
  whole a := (a.num.tdiv a.den : Int)
  round a := if a < 0 then -((-a + 1 / 2).floor : Int) else ((a + 1 / 2).floor : Int)
  wrap a period := a - period * ((a / period).floor : Int)
  larger a b := if a < b then b else a
  smaller a b := if b < a then b else a
  count n := (n : Int)
  exact a := .finite (a < 0) a.num.natAbs a.den

end WeatherRelay
