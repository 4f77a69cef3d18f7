/-!
# Exact values and their decimal text

A machine double stands for one exact quotient of naturals, or for a special value. All text that this library writes for a
number is rounded from that exact value, once, with a tie going to the even neighbour.
-/

namespace WeatherRelay.Decimal

/-- The value of a number that may be a machine double: a sign before a quotient of naturals, or a special value. -/
inductive Exact where
  | finite (negative : Bool) (num den : Nat)
  | infinite (negative : Bool)
  | nan
deriving DecidableEq, Repr

/-- A power of two. -/
def twos (n : Nat) : Nat := Nat.pow 2 n

/-- A power of ten. -/
def tens (n : Nat) : Nat := Nat.pow 10 n

/-- The quotient `num / den` rounded to the nearest natural, a tie to the even one. -/
def roundDiv (num den : Nat) : Nat :=
  let whole := num / den
  let twice := 2 * (num % den)
  if twice < den then whole else if den < twice then whole + 1 else whole + whole % 2

/-- The bits of a double: whether it is negative, its biased exponent and its fraction. -/
def fields (x : Float) : Bool × Nat × Nat :=
  let bits := x.toBits.toNat
  (bits / twos 63 == 1, bits / twos 52 % twos 11, bits % twos 52)

/-- A double with biased exponent `e` and fraction `f` is `(2^52 + f) * 2^(e - 1075)`, without the
leading bit when `e` is 0. -/
def ofFloat (x : Float) : Exact :=
  match fields x with
  | (negative, 2047, 0) => .infinite negative
  | (_, 2047, _) => .nan
  | (negative, 0, f) => .finite negative f (twos 1074)
  | (negative, e, f) =>
    if e < 1075 then .finite negative (twos 52 + f) (twos (1075 - e))
    else .finite negative ((twos 52 + f) * twos (e - 1075)) 1

/-- A whole number made of the magnitude, kept within `lo` and `hi`; a NaN counts as zero. -/
def Exact.toWhole (magnitude : Nat → Nat → Nat) (lo hi : Int) : Exact → Int
  | .finite negative num den =>
    let whole : Int := magnitude num den
    max lo (min hi (if negative then -whole else whole))
  | .infinite negative => if negative then lo else hi
  | .nan => 0

/-- The whole part, toward zero. -/
def Exact.truncate : Int → Int → Exact → Int := toWhole fun num den => num / den

/-- The nearest whole number, a half going away from zero. -/
def Exact.nearest : Int → Int → Exact → Int := toWhole fun num den => (2 * num + den) / (2 * den)

/-- The decimal digits of a natural. -/
def digits (n : Nat) : List Char := Nat.toDigits 10 n

/-- Text filled up on the left to a least width. -/
def padLeft (width : Nat) (fill : Char) (text : List Char) : List Char :=
  List.replicate (width - text.length) fill ++ text

/-- The sign that is written before a number. -/
def sign (negative : Bool) : List Char := if negative then ['-'] else []

/-- A natural count of units of `10^-places`, written with a point. -/
def pointed (places scaled : Nat) : List Char :=
  let all := padLeft (places + 1) '0' (digits scaled)
  let cut := all.length - places
  if places = 0 then all else all.take cut ++ '.' :: all.drop cut

/-- The magnitude of a value with a fixed number of places, apart from its sign. -/
def Exact.fixedParts (places : Nat) : Exact → List Char × List Char
  | .finite negative num den => (sign negative, pointed places (roundDiv (num * tens places) den))
  | .infinite negative => (sign negative, ['i', 'n', 'f'])
  | .nan => ([], ['N', 'a', 'N'])

/-- A value with a fixed number of places; the sign of a negative zero is kept. -/
def Exact.fixed (places : Nat) (x : Exact) : List Char :=
  (x.fixedParts places).1 ++ (x.fixedParts places).2

/-- A double with a fixed number of places, filled up with blanks to a least width. -/
def floatColumn (width places : Nat) (x : Float) : String :=
  String.ofList (padLeft width ' ' ((ofFloat x).fixed places))

/-- A double with a fixed number of places. -/
def floatText (places : Nat) (x : Float) : String := String.ofList ((ofFloat x).fixed places)

/-- A value with a fixed number of places, filled up with zeros between the sign and the magnitude. -/
def Exact.fixedZeros (width places : Nat) (x : Exact) : List Char :=
  let parts := x.fixedParts places
  parts.1 ++ padLeft (width - parts.1.length) '0' parts.2

/-- An integer filled up with zeros after its sign: `-5` in three columns is `-05`. -/
def column (width : Nat) (n : Int) : List Char :=
  let mark := sign (n < 0)
  mark ++ padLeft (width - mark.length) '0' (digits n.natAbs)

/-- An integer without fill. -/
def integer (n : Int) : List Char := sign (n < 0) ++ digits n.natAbs

/-- The exponent of the leading decimal digit of a positive quotient. -/
def leading (num den : Nat) : Int :=
  let guess : Int := (digits num).length - (digits den).length
  if den * tens guess.toNat ≤ num * tens (-guess).toNat then guess else guess - 1

/-- The quotient counted in units of `10^unit`, as a quotient of naturals. -/
def inUnits (num den : Nat) (unit : Int) : Nat × Nat :=
  (num * tens (-unit).toNat, den * tens unit.toNat)

/-- Twelve significant digits: one before the point, eleven after it, then the exponent; both zeros are `0`. -/
def Exact.twelveDigits : Exact → List Char
  | .finite negative num den =>
    if num = 0 then ['0'] else
      let top := leading num den
      let scaled := inUnits num den (top - 11)
      let rounded := roundDiv scaled.1 scaled.2
      let (rounded, top) := if rounded = tens 12 then (tens 11, top + 1) else (rounded, top)
      sign negative ++ pointed 11 rounded ++ 'e' :: integer top
  | x => x.fixed 0

end WeatherRelay.Decimal
