import WeatherRelay.Decimal.Basic

/-!
# The shortest digits that read back

Of all decimals that round to a given double, the ones with the fewest digits, and of these the nearest: what the saved
rainfall record holds.
-/

namespace WeatherRelay.Decimal

/-- A positive double, as a count of quarters of its last place, with the interval of quotients that round to it. -/
structure Neighbourhood where
  value : Nat
  low : Nat
  high : Nat
  den : Nat
  closed : Bool
deriving DecidableEq, Repr

/-- The reals that round to a double reach half way to each neighbour; the lower one is nearer at a power of two. -/
def neighbourhood (e f : Nat) : Neighbourhood :=
  let m := if e = 0 then f else twos 52 + f
  let exponent := max e 1
  let scale := twos (exponent - 1077)
  { value := 4 * m * scale
    low := (4 * m - if f = 0 ∧ 1 < e then 1 else 2) * scale
    high := (4 * m + 2) * scale
    den := twos (1077 - exponent)
    closed := m % 2 = 0 }

/-- Whether a count of units of `10^unit` lies in the interval. -/
def Neighbourhood.holds (n : Neighbourhood) (unit : Int) (count : Nat) : Bool :=
  let point := count * tens unit.toNat * n.den
  let low := n.low * tens (-unit).toNat
  let high := n.high * tens (-unit).toNat
  if n.closed then low ≤ point && point ≤ high else low < point && point < high

/-- The nearer of the two grid points around the value that lies in the interval, if one does. -/
def Neighbourhood.onGrid? (n : Neighbourhood) (unit : Int) : Option Nat :=
  let scaled := inUnits n.value n.den unit
  let near := roundDiv scaled.1 scaled.2
  let below := scaled.1 / scaled.2
  let far := if near = below then below + 1 else below
  if n.holds unit near then some near else if n.holds unit far then some far else none

/-- The digits of a positive double and the power of ten of the last one. -/
def Neighbourhood.shortest (n : Neighbourhood) : Nat × Int :=
  let top := leading n.value n.den
  let atDigits (more : Nat) : Option (Nat × Int) :=
    (n.onGrid? (top - more)).map fun count => (count, top - more)
  ((List.range 17).findSome? atDigits).getD (0, 0)

/-- Digits without the zeros at their end, which the power of ten takes over. -/
def strip : Nat → Nat → Int → Nat × Int
  | 0, count, unit => (count, unit)
  | fuel + 1, count, unit =>
    if count ≠ 0 ∧ count % 10 = 0 then strip fuel (count / 10) (unit + 1) else (count, unit)

/-- Where the positional form ends: below `10^-5` and from `10^16` on an exponent is written. -/
def placed (count : Nat) (unit : Int) : List Char :=
  let ds := digits count
  let before : Int := ds.length + unit
  if 0 ≤ unit ∧ before ≤ 16 then ds ++ List.replicate unit.toNat '0' ++ ['.', '0']
  else if 0 < before ∧ before ≤ 16 then ds.take before.toNat ++ '.' :: ds.drop before.toNat
  else if -5 < before ∧ before ≤ 0 then '0' :: '.' :: List.replicate (-before).toNat '0' ++ ds
  else
    let fraction := ds.drop 1
    ds.take 1 ++ (if fraction.isEmpty then [] else '.' :: fraction) ++ 'e' :: integer (before - 1)

/-- The shortest text of a finite double; none for the others. -/
def shortestText? (x : Float) : Option (List Char) :=
  match fields x with
  | (_, 2047, _) => none
  | (negative, 0, 0) => some (sign negative ++ ['0', '.', '0'])
  | (negative, e, f) =>
    let found := (neighbourhood e f).shortest
    let found := strip 17 found.1 found.2
    some (sign negative ++ placed found.1 found.2)

end WeatherRelay.Decimal
