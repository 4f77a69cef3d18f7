import WeatherRelay.Decimal.Reading
import WeatherRelay.Word
import WeatherRelay.Yaml.Node

/-!
# Reading typed values from YAML

Any scalar is a text. Numbers and booleans are plain scalars only, or literal blocks with the tag of their type. A
structure is a mapping whose unknown keys are passed over; a structure or a list for which nothing is written is empty.
-/

namespace WeatherRelay.Yaml

namespace Document

/-- The node itself, or what it stands for. -/
def resolve? (d : Document) : Node → Option Node
  | .alias number => d.target? number
  | n => some n

/-- The text of a scalar. -/
def text? (d : Document) (n : Node) : Option String :=
  match d.resolve? n with
  | some (.scalar s _ _) => some s
  | _ => none

/-- The characters of a scalar that may be of a type, which is named by a tag. -/
def untyped? (d : Document) (type : String) (n : Node) : Option (List Char) :=
  match d.resolve? n with
  | some (.scalar s .plain _) => some s.toList
  | some (.scalar s .literal (some tag)) => if tag = "tag:yaml.org,2002:" ++ type then some s.toList else none
  | _ => none

/-- Whether nothing is written. -/
def isNothing : Node → Bool
  | .absent => true
  | .scalar "" .plain _ => true
  | _ => false

/-- The items of a list. -/
def items? (d : Document) (n : Node) : Option (List Node) :=
  match d.resolve? n with
  | some (.sequence items) => some items
  | some n => if isNothing n then some [] else none
  | none => none

/-- The known fields of a structure. Every key has to be a text, and no known key may occur twice. -/
def fields? (d : Document) (known : List String) (n : Node) : Option (List (String × Node)) :=
  match d.resolve? n with
  | some (.mapping pairs) =>
    (pairs.mapM fun p => (d.text? p.1).map fun k => (k, p.2)).bind fun named =>
      let found := named.filter fun f => known.contains f.1
      if known.all fun k => (found.filter (·.1 == k)).length ≤ 1 then some found else none
  | some n => if isNothing n then some [] else none
  | none => none

end Document

/-- Whether digits follow a superfluous zero. -/
def hasIdleZero (cs : List Char) : Bool :=
  match cs with
  | '0' :: c :: rest => (c :: rest).all Char.isDigit
  | _ => false

/-- A natural of 64 bits, in base ten, or in base 16, 8 or 2 after `0x`, `0o` or `0b`. -/
def natural64? (cs : List Char) : Option Nat :=
  let cs := match cs with
    | '+' :: r => r
    | r => r
  match cs with
  | '0' :: 'x' :: ds => Decimal.bounded? 16 Word.maxNat64 ds
  | '0' :: 'o' :: ds => Decimal.bounded? 8 Word.maxNat64 ds
  | '0' :: 'b' :: ds => Decimal.bounded? 2 Word.maxNat64 ds
  | ds => if hasIdleZero ds then none else Decimal.bounded? 10 Word.maxNat64 ds

/-- A double: a finite decimal, an infinity or a NaN. -/
def double? (cs : List Char) : Option Float :=
  let (plus, bare) := match cs with
    | '+' :: r => (true, r)
    | r => (false, r)
  if plus && bare.head?.any fun c => c ∈ ['+', '-'] then none
  else if [".inf", ".Inf", ".INF"].contains (String.ofList bare) then some (1.0 / 0.0)
  else if ["-.inf", "-.Inf", "-.INF"].contains (String.ofList cs) then some (-1.0 / 0.0)
  else if [".nan", ".NaN", ".NAN"].contains (String.ofList cs) then some (0.0 / 0.0)
  else (Decimal.float? bare).filter Float.isFinite

/-- A truth value in one of three spellings. -/
def boolean? (cs : List Char) : Option Bool :=
  if ["true", "True", "TRUE"].contains (String.ofList cs) then some true
  else if ["false", "False", "FALSE"].contains (String.ofList cs) then some false
  else none

end WeatherRelay.Yaml
