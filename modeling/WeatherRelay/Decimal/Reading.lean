/-!
# Reading decimal text

A decimal with an optional fraction and exponent, as the nearest double.
-/

namespace WeatherRelay.Decimal

/-- The value of a digit in a base up to 36. -/
def digitIn? (base : Nat) (c : Char) : Option Nat :=
  let v :=
    if '0' ≤ c ∧ c ≤ '9' then c.toNat - '0'.toNat
    else if 'a' ≤ c ∧ c ≤ 'z' then c.toNat - 'a'.toNat + 10
    else if 'A' ≤ c ∧ c ≤ 'Z' then c.toNat - 'A'.toNat + 10
    else 36
  if v < base then some v else none

/-- A natural from its digits in a base; there has to be one at least. -/
def natural? (base : Nat) (cs : List Char) : Option Nat :=
  if cs.isEmpty then none else cs.foldlM (fun n c => (digitIn? base c).map (n * base + ·)) 0

/-- A natural up to a bound. -/
def bounded? (base bound : Nat) (cs : List Char) : Option Nat := (natural? base cs).filter (· ≤ bound)

/-- The value of an exponent beyond which further digits are passed over. -/
def ampleExponent : Nat := 65536

/-- The digits of an exponent. -/
def exponentDigits? (cs : List Char) : Option Nat :=
  if cs.isEmpty then none
  else cs.foldlM (fun n c => (digitIn? 10 c).map fun d => if n < ampleExponent then n * 10 + d else n) 0

/-- An exponent with an optional sign. -/
def exponent? (cs : List Char) : Option Int :=
  match cs with
  | '-' :: ds => (exponentDigits? ds).map fun n => -(n : Int)
  | '+' :: ds => (exponentDigits? ds).map (·)
  | ds => (exponentDigits? ds).map (·)

/-- The double nearest to `digits * 10^exponent`. Powers of ten beyond those that matter are not computed. -/
def nearest (digits : Nat) (exponent : Int) : Float :=
  let top := (Nat.toDigits 10 digits).length + exponent
  if digits = 0 ∨ top < -400 then 0.0
  else if 400 < top then 1.0 / 0.0
  else Float.ofScientific digits (decide (exponent < 0)) exponent.natAbs

/-- An unsigned decimal: digits on at least one side of an optional point, and an optional exponent. -/
def unsigned? (cs : List Char) : Option Float :=
  let whole := cs.takeWhile Char.isDigit
  let rest := cs.dropWhile Char.isDigit
  let (fraction, rest) := match rest with
    | '.' :: r => (r.takeWhile Char.isDigit, r.dropWhile Char.isDigit)
    | r => ([], r)
  let digits := whole ++ fraction
  let exponent : Option Int := match rest with
    | [] => some 0
    | e :: ds => if e = 'e' ∨ e = 'E' then exponent? ds else none
  (natural? 10 digits).bind fun n => exponent.map fun e => nearest n (e - fraction.length)

/-- A decimal with an optional sign. -/
def float? (cs : List Char) : Option Float :=
  match cs with
  | '-' :: r => (unsigned? r).map fun x => -x
  | '+' :: r => unsigned? r
  | r => unsigned? r

end WeatherRelay.Decimal
