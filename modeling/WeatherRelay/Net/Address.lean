import WeatherRelay.Decimal.Basic
import WeatherRelay.Decimal.Reading
import WeatherRelay.Word

/-!
# Socket addresses

Reading an address of version 4 or 6 with a port, and the canonical text of addresses.
-/

namespace WeatherRelay.Net

/-- The address of a host: four octets, or eight groups of sixteen bits with an optional scope. -/
inductive Host where
  | v4 (octets : List Nat)
  | v6 (groups : List Nat) (scope : Nat)
deriving DecidableEq, Repr

/-- The address of a socket. -/
structure Address where
  host : Host
  port : Nat
deriving DecidableEq, Repr

namespace Address

/-- Digits of a base, at most `most` of them, with a value up to a bound; a leading zero is refused
where it may not stand. -/
def number? (base bound : Nat) (most : Option Nat) (zeros : Bool) (cs : List Char) : Option (Nat × List Char) :=
  let ds := cs.takeWhile fun c => (Decimal.digitIn? base c).isSome
  if most.any (· < ds.length) || (!zeros && ds.head? == some '0' && 1 < ds.length) then none
  else (Decimal.bounded? base bound ds).map fun n => (n, cs.drop ds.length)

/-- A character that has to come next. -/
def expect? (c : Char) : List Char → Option (List Char)
  | x :: rest => if x = c then some rest else none
  | [] => none

/-- Four octets with points between them. -/
def octets? (cs : List Char) : Option (List Nat × List Char) := do
  let (a, cs) ← number? 10 255 (some 3) false cs
  let (b, cs) ← number? 10 255 (some 3) false (← expect? '.' cs)
  let (c, cs) ← number? 10 255 (some 3) false (← expect? '.' cs)
  let (d, cs) ← number? 10 255 (some 3) false (← expect? '.' cs)
  return ([a, b, c, d], cs)

/-- What follows a separator, which stands before all groups but the first. -/
def afterColon? (first : Bool) (cs : List Char) : Option (List Char) := if first then some cs else expect? ':' cs

/-- Up to `limit` groups; the last two may be written as four octets. Says whether they were. -/
def groups (first : Bool) : Nat → List Char → List Nat × Bool × List Char
  | 0, cs => ([], false, cs)
  | limit + 1, cs =>
    let embedded := if limit = 0 then none else (afterColon? first cs).bind octets?
    match embedded with
    | some ([a, b, c, d], rest) => ([a * 256 + b, c * 256 + d], true, rest)
    | _ =>
      match (afterColon? first cs).bind (number? 16 65535 (some 4) true) with
      | none => ([], false, cs)
      | some (g, rest) =>
        let (more, dotted, rest) := groups false limit rest
        (g :: more, dotted, rest)

/-- Eight groups, or fewer with two colons for the zeros that are left out. -/
def v6Groups? (cs : List Char) : Option (List Nat × List Char) :=
  let (head, dotted, rest) := groups true 8 cs
  if head.length = 8 then some (head, rest)
  else if dotted then none
  else (expect? ':' rest).bind (expect? ':') |>.map fun rest =>
    let (tail, _, rest) := groups true (7 - head.length) rest
    (head ++ List.replicate (8 - head.length - tail.length) 0 ++ tail, rest)

/-- The port, which ends an address. -/
def port? (cs : List Char) : Option Nat :=
  match (expect? ':' cs).bind (number? 10 65535 none true) with
  | some (n, []) => some n
  | _ => none

/-- An address of version 4. -/
def v4? (cs : List Char) : Option Address := do
  let (octets, cs) ← octets? cs
  return ⟨.v4 octets, ← port? cs⟩

/-- An address of version 6, in square brackets, with an optional scope. -/
def v6? (cs : List Char) : Option Address := do
  let (groups, cs) ← v6Groups? (← expect? '[' cs)
  let (scope, cs) ← match cs with
    | '%' :: rest => number? 10 Word.maxNat32 none true rest
    | _ => some (0, cs)
  return ⟨.v6 groups scope, ← port? (← expect? ']' cs)⟩

/-- The address that a text is. -/
def of? (s : String) : Option Address := v4? s.toList <|> v6? s.toList

end Address

namespace Host

/-- Texts with a separator between them. -/
def joined (separator : Char) : List (List Char) → List Char
  | [] => []
  | [a] => a
  | a :: rest => a ++ separator :: joined separator rest

/-- The length of the run of zeros at the front. -/
def zerosAt (gs : List Nat) : Nat := (gs.takeWhile (· == 0)).length

/-- Where the first of the longest runs of zeros begins, and how long it is. -/
def longestZeros (gs : List Nat) : Nat × Nat :=
  (List.range gs.length).foldl (fun best i => if best.2 < zerosAt (gs.drop i) then (i, zerosAt (gs.drop i)) else best) (0, 0)

/-- Groups in hexadecimal. -/
def groupsText (gs : List Nat) : List Char := joined ':' (gs.map (Nat.toDigits 16))

/-- Groups with the first of the longest runs of two or more zeros left out. -/
def compressed (gs : List Nat) : List Char :=
  let (start, length) := longestZeros gs
  if length < 2 then groupsText gs
  else groupsText (gs.take start) ++ ':' :: ':' :: groupsText (gs.drop (start + length))

/-- The canonical text of a host; eight groups that hold an address of version 4 show it. -/
def text : Host → List Char
  | .v4 octets => joined '.' (octets.map Decimal.digits)
  | .v6 [0, 0, 0, 0, 0, 0xffff, a, b] _ =>
    "::ffff:".toList ++ joined '.' ([a / 256, a % 256, b / 256, b % 256].map Decimal.digits)
  | .v6 gs _ => compressed gs

end Host

/-- The text of an address. -/
def Address.text (a : Address) : String :=
  match a.host with
  | .v4 _ => String.ofList (a.host.text ++ ':' :: Decimal.digits a.port)
  | .v6 _ scope =>
    let zone := if scope = 0 then [] else '%' :: Decimal.digits scope
    String.ofList ('[' :: a.host.text ++ zone ++ ']' :: ':' :: Decimal.digits a.port)

end WeatherRelay.Net
