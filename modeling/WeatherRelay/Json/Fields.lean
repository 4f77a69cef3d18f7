import WeatherRelay.Json.Value
import WeatherRelay.Word

/-!
# Reading structures

A structure is written as an object, whose unknown members are passed over, or as a list of its fields in their order.
-/

namespace WeatherRelay.Json

/-- The fields of a structure that were found, and whether they came from a list. -/
structure Fields where
  inOrder : Bool
  found : List (String × Value)

namespace Fields

/-- The known members of an object, if none of them occurs twice; or the items of a list, if there are not too many. -/
def of? (names : List String) : Value → Option Fields
  | .object members =>
    let known := members.filter fun m => names.contains m.1
    if names.all fun n => (known.filter (·.1 == n)).length ≤ 1 then some ⟨false, known⟩ else none
  | .array items => if items.length ≤ names.length then some ⟨true, names.zip items⟩ else none
  | _ => none

/-- A field by its name. -/
def get? (f : Fields) (name : String) : Option Value := (f.found.find? (·.1 == name)).map (·.2)

/-- A field that has to be there. -/
def need? {β : Type} (f : Fields) (name : String) (read : Value → Option β) : Option β := (f.get? name).bind read

/-- A field that may be missing. -/
def orElse? {β : Type} (f : Fields) (name : String) (absent : β) (read : Value → Option β) : Option β :=
  match f.get? name with
  | none => some absent
  | some v => read v

/-- A field that may be null, and may be missing from an object but not from a list. -/
def nullable? {β : Type} (f : Fields) (name : String) (read : Value → Option β) : Option (Option β) :=
  match f.get? name with
  | none => if f.inOrder then none else some none
  | some .null => some none
  | some v => (read v).map some

end Fields

namespace Value

/-- An integer between two bounds. A double is none. -/
def int? (lo hi : Int) : Value → Option Int
  | .number (.natural n) => if lo ≤ n.toNat ∧ n.toNat ≤ hi then some n.toNat else none
  | .number (.negative n) => if lo ≤ n.toInt ∧ n.toInt ≤ hi then some n.toInt else none
  | _ => none

/-- A natural of 32 bits. -/
def nat32? (v : Value) : Option Nat := (v.int? 0 Word.maxNat32).map Int.toNat

/-- An integer of 32 bits. -/
def int32? : Value → Option Int := int? Word.minInt32 Word.maxInt32

/-- An integer of 64 bits. -/
def int64? : Value → Option Int := int? Word.minInt64 Word.maxInt64

end Value

end WeatherRelay.Json
