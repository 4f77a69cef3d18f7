/-!
# JSON values
-/

namespace WeatherRelay.Json

/-- A number: a natural of 64 bits, a negative integer of 64 bits, or a double. -/
inductive Number where
  | natural (n : UInt64)
  | negative (n : Int64)
  | real (x : Float)

/-- A number as a double, the nearest one to an integer. -/
def Number.toFloat : Number → Float
  | .natural n => n.toFloat
  | .negative n => n.toFloat
  | .real x => x

/-- A JSON value. A leaf that has the form of a number or a text but stands for none (a number beyond the doubles, a
text with half of a surrogate pair or with bytes that make no character) is `broken`, as is an object with such a name;
it does no harm where it is not read. -/
inductive Value where
  | null
  | boolean (b : Bool)
  | number (n : Number)
  | text (s : String)
  | array (items : List Value)
  | object (members : List (String × Value))
  | broken

namespace Value

/-- The member of a name; of several the last one counts. -/
def get? (key : String) : Value → Option Value
  | .object members => (members.reverse.find? (·.1 == key)).map (·.2)
  | _ => none

/-- The items of an array. -/
def items? : Value → Option (List Value)
  | .array items => some items
  | _ => none

/-- The text of a text. -/
def text? : Value → Option String
  | .text s => some s
  | _ => none

/-- A number as a double. -/
def float? : Value → Option Float
  | .number n => some n.toFloat
  | _ => none

end Value

end WeatherRelay.Json
