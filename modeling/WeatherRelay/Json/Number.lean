import WeatherRelay.Json.Value
import WeatherRelay.Word

/-!
# Reading JSON numbers

The grammar of a number, and its value. The digits are gathered in 64 bits; digits that no longer fit are dropped
and only move the decimal point. A double is the gathered digits scaled by one power of ten, rounded after the
digits and after the scaling.
-/

namespace WeatherRelay.Json

/-- A number as it is written. -/
structure Literal where
  negative : Bool
  whole : List Nat
  fraction : Option (List Nat)
  exponent : Option (Bool × List Nat)
deriving DecidableEq, Repr

/-- The value of a decimal digit. -/
def digit? (c : Char) : Option Nat := if '0' ≤ c ∧ c ≤ '9' then some (c.toNat - '0'.toNat) else none

/-- The digits at the front, and what follows them. -/
def takeDigits : List Char → List Nat × List Char
  | [] => ([], [])
  | c :: rest =>
    match digit? c with
    | some d => let more := takeDigits rest; (d :: more.1, more.2)
    | none => ([], c :: rest)

namespace Literal

/-- The exponent of a number, which ends it. -/
def exponentOf? : List Char → Option (Option (Bool × List Nat))
  | [] => some none
  | c :: rest =>
    if c = 'e' ∨ c = 'E' then
      let (down, rest) := match rest with
        | '-' :: r => (true, r)
        | '+' :: r => (false, r)
        | r => (false, r)
      match takeDigits rest with
      | ([], _) => none
      | (ds, []) => some (some (down, ds))
      | _ => none
    else none

/-- A number has no superfluous zero in front, and digits on both sides of its point. -/
def of? (cs : List Char) : Option Literal :=
  let (negative, cs) := match cs with
    | '-' :: r => (true, r)
    | r => (false, r)
  match takeDigits cs with
  | ([], _) => none
  | (0 :: _ :: _, _) => none
  | (whole, '.' :: rest) =>
    match takeDigits rest with
    | ([], _) => none
    | (fraction, rest) => (exponentOf? rest).map fun e => ⟨negative, whole, some fraction, e⟩
  | (whole, rest) => (exponentOf? rest).map fun e => ⟨negative, whole, none, e⟩

/-- Gathered digits, whether one was dropped, and the power of ten of the last one gathered. -/
structure Significand where
  value : Nat := 0
  full : Bool := false
  scale : Int := 0

/-- Takes a digit while the digits fit in 64 bits. -/
def Significand.take? (s : Significand) (d : Nat) : Option Nat :=
  if s.full then none else if s.value * 10 + d ≤ Word.maxNat64 then some (s.value * 10 + d) else none

/-- A digit before the point that does not fit raises the power of ten. -/
def Significand.whole (s : Significand) (d : Nat) : Significand :=
  match s.take? d with
  | some v => { s with value := v }
  | none => { s with full := true, scale := s.scale + 1 }

/-- A digit after the point that does not fit is dropped. -/
def Significand.fraction (s : Significand) (d : Nat) : Significand :=
  match s.take? d with
  | some v => { s with value := v, scale := s.scale - 1 }
  | none => { s with full := true }

/-- The power of ten that is nearest to `10^n`. -/
def powerOfTen (n : Nat) : Float := Float.ofScientific 1 false n

/-- Divides by `10^308` until the power of ten left is one that a double can hold. -/
def shrink : Nat → Float → Int → Float
  | 0, x, _ => x
  | fuel + 1, x, exponent =>
    if -308 ≤ exponent then x / powerOfTen (-exponent).toNat
    else if x == 0.0 then x
    else shrink fuel (x / 1e308) (exponent + 308)

/-- A magnitude times a power of ten; none when it lies beyond the doubles. -/
def scale? (x : Float) (exponent : Int) : Option Float :=
  if exponent < 0 then some (shrink 8 x exponent)
  else if exponent ≤ 308 then
    let y := x * powerOfTen exponent.toNat
    if y.isInf then none else some y
  else if x == 0.0 then some x else none

/-- A number kept within the integers of 32 bits. -/
def clamp32 (n : Int) : Int := max (-2147483648) (min 2147483647 n)

/-- An exponent that does not fit in 32 bits makes zero, or a number beyond the doubles. -/
def magnitude? (s : Significand) (exponent : Option (Bool × List Nat)) : Option Float :=
  let x := s.value.toUInt64.toFloat
  match exponent with
  | none => scale? x s.scale
  | some (down, ds) =>
    let e : Nat := ds.foldl (fun e d => e * 10 + d) 0
    if 2147483647 < e then (if s.value ≠ 0 ∧ !down then none else some 0.0)
    else scale? x (clamp32 (if down then s.scale - e else s.scale + e))

/-- The value of a number; none when it lies beyond the doubles. A negative zero, and an integer that does not fit in
64 bits, is a double. -/
def value? (l : Literal) : Option Number :=
  let whole := l.whole.foldl Significand.whole {}
  let signed (x : Float) : Number := .real (if l.negative then -x else x)
  match l.fraction, l.exponent with
  | none, none =>
    if whole.full then (magnitude? whole none).map signed
    else if !l.negative then some (.natural whole.value.toUInt64)
    else if 0 < whole.value ∧ whole.value ≤ 9223372036854775808 then some (.negative (Int64.ofInt (-whole.value)))
    else some (signed whole.value.toUInt64.toFloat)
  | fraction, exponent =>
    let all := (fraction.getD []).foldl Significand.fraction { whole with full := false }
    (magnitude? all exponent).map signed

end Literal

end WeatherRelay.Json
