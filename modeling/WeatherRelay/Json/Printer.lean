import WeatherRelay.Decimal.Shortest
import WeatherRelay.Json.Value

/-!
# Writing JSON

A value over several lines, two blanks deeper in each container. A number that is no finite double is written as null.
-/

namespace WeatherRelay.Json

/-- The four hexadecimal digits of a control character. -/
def hexFour (n : Nat) : List Char := Decimal.padLeft 4 '0' (Nat.toDigits 16 n)

/-- A character in a text: quotes, backslashes and control characters are escaped. -/
def quotedChar : Char → List Char
  | '"' => ['\\', '"']
  | '\\' => ['\\', '\\']
  | '\n' => ['\\', 'n']
  | '\r' => ['\\', 'r']
  | '\t' => ['\\', 't']
  | '\x08' => ['\\', 'b']
  | '\x0c' => ['\\', 'f']
  | c => if c.toNat < 0x20 then '\\' :: 'u' :: hexFour c.toNat else [c]

/-- A text between quotes. -/
def quoted (s : String) : List Char := '"' :: s.toList.flatMap quotedChar ++ ['"']

/-- A number. -/
def Number.text : Number → List Char
  | .natural n => Decimal.digits n.toNat
  | .negative n => Decimal.integer n.toInt
  | .real x => (Decimal.shortestText? x).getD ['n', 'u', 'l', 'l']

/-- A new line at a depth. -/
def newLine (depth : Nat) : List Char := '\n' :: List.replicate (2 * depth) ' '

mutual

/-- A value that stands at a depth. -/
def Value.pretty (depth : Nat) : Value → List Char
  | .null => ['n', 'u', 'l', 'l']
  | .boolean true => ['t', 'r', 'u', 'e']
  | .boolean false => ['f', 'a', 'l', 's', 'e']
  | .number n => n.text
  | .text s => quoted s
  | .array [] => ['[', ']']
  | .array (v :: vs) =>
    '[' :: newLine (depth + 1) ++ v.pretty (depth + 1) ++ prettyItems (depth + 1) vs ++ newLine depth ++ [']']
  | .object [] => ['\x7b', '\x7d']
  | .object ((k, v) :: ms) =>
    '\x7b' :: newLine (depth + 1) ++ quoted k ++ [':', ' '] ++ v.pretty (depth + 1) ++ prettyMembers (depth + 1) ms ++
      newLine depth ++ ['\x7d']
  | .broken => ['n', 'u', 'l', 'l']

/-- Further items, each after a comma. -/
def prettyItems (depth : Nat) : List Value → List Char
  | [] => []
  | v :: vs => ',' :: newLine depth ++ v.pretty depth ++ prettyItems depth vs

/-- Further members, each after a comma. -/
def prettyMembers (depth : Nat) : List (String × Value) → List Char
  | [] => []
  | (k, v) :: ms => ',' :: newLine depth ++ quoted k ++ [':', ' '] ++ v.pretty depth ++ prettyMembers depth ms

end

end WeatherRelay.Json
