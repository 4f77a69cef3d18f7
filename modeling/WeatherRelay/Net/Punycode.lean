/-!
# Domain labels in ASCII

Code points beyond ASCII are written as the differences between them, in ascending order, as variable-length
numbers in base 36 whose digit thresholds adapt to the numbers written before (the encoding that
internationalised domain names use).
-/

namespace WeatherRelay.Net.Punycode

/-- A digit in base 36: letters first. -/
def digit (n : Nat) : Char := if n < 26 then Char.ofNat (97 + n) else Char.ofNat (22 + n)

/-- The threshold of a digit place. -/
def threshold (k bias : Nat) : Nat := if k ≤ bias then 1 else if bias + 26 ≤ k then 26 else k - bias

/-- Shrinks a difference and counts by how much. -/
def shrink (delta k : Nat) : Nat × Nat := if 455 < delta then shrink (delta / 35) (k + 36) else (delta, k)
termination_by delta

/-- The bias after a difference was written. -/
def adapt (delta count : Nat) (first : Bool) : Nat :=
  let d := if first then delta / 700 else delta / 2
  let (d, k) := shrink (d + d / count) 0
  k + 36 * d / (d + 38)

/-- A difference in digits of base 36. -/
def digits (bias : Nat) : Nat → Nat → Nat → List Char
  | 0, _, _ => []
  | fuel + 1, k, q =>
    let t := threshold k bias
    if q < t then [digit q] else digit (t + (q - t) % (36 - t)) :: digits bias fuel (k + 36) ((q - t) / (36 - t))

/-- The state of writing: the text, the difference so far, the bias and the number of code points written. -/
structure Writer where
  out : List Char
  delta : Nat := 0
  bias : Nat := 72
  written : Nat

/-- Passes a code point of the label while those with the value `m` are written. -/
def Writer.pass (basic m : Nat) (w : Writer) (c : Char) : Writer :=
  if c.toNat < m then { w with delta := w.delta + 1 }
  else if c.toNat = m then
    { out := w.out ++ digits w.bias 64 36 w.delta
      delta := 0
      bias := adapt w.delta (w.written + 1) (w.written == basic)
      written := w.written + 1 }
  else w

/-- The values beyond ASCII in a label, ascending. -/
def beyond (label : List Char) : List Nat :=
  ((label.filter fun c => 0x80 ≤ c.toNat).map Char.toNat).eraseDups.mergeSort

/-- A label in ASCII; one that is in ASCII already stays. -/
def encode (label : List Char) : List Char :=
  let basic := label.filter fun c => c.toNat < 0x80
  let values := beyond label
  if values.isEmpty then label
  else
    let start : Writer := { out := if basic.isEmpty then [] else basic ++ ['-'], written := basic.length }
    let (w, _) := values.foldl (fun (w, n) m =>
      let w := { w with delta := w.delta + (m - n) * (w.written + 1) }
      let w := label.foldl (Writer.pass basic.length m) w
      ({ w with delta := w.delta + 1 }, m + 1)) (start, 0x80)
    ['x', 'n', '-', '-'] ++ w.out

/-- The value of a digit. -/
def digitValue? (c : Char) : Option Nat :=
  if 'a' ≤ c ∧ c ≤ 'z' then some (c.toNat - 97) else if '0' ≤ c ∧ c ≤ '9' then some (c.toNat - 22) else none

/-- Reads a number of variable length: `value` is what was read of it, `weight` what the next digit counts. -/
def number? (bias : Nat) : Nat → Nat → Nat → List Char → Option (Nat × List Char)
  | _, _, _, [] => none
  | k, value, weight, c :: rest =>
    (digitValue? c).bind fun d =>
      let t := threshold k bias
      if d < t then some (value + d * weight, rest) else number? bias (k + 36) (value + d * weight) (weight * (36 - t)) rest

/-- Puts the characters that differences tell among others: `n` is the last code point, `i` the place after it. -/
def insert? : Nat → Nat → Nat → Nat → List Char → List Char → Option (List Char)
  | 0, _, _, _, label, _ => some label
  | _, _, _, _, label, [] => some label
  | fuel + 1, n, i, bias, label, cs =>
    (number? bias 36 0 1 cs).bind fun (delta, rest) =>
      let count := label.length + 1
      let n := n + (i + delta) / count
      let place := (i + delta) % count
      if n.isValidChar then
        insert? fuel n (place + 1) (adapt delta count (i == 0)) (label.take place ++ Char.ofNat n :: label.drop place) rest
      else none

/-- The label that is encoded: the characters before the last hyphen, if there are any, with those
that are told after it. -/
def decode? (cs : List Char) : Option (List Char) :=
  let tail := (cs.reverse.takeWhile (· ≠ '-')).reverse
  match (cs.take (cs.length - tail.length)).dropLast with
  | [] => insert? cs.length 0x80 0 72 [] cs
  | basic => if basic.all (·.toNat < 0x80) then insert? tail.length 0x80 0 72 basic tail else none

end WeatherRelay.Net.Punycode
