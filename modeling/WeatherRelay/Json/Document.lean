import WeatherRelay.Json.Token
import WeatherRelay.Text.Basic

/-!
# JSON documents

Tokens become one value. The containers that are still open are kept in a stack, so that the depth of a text is bounded by
nothing but the limit that a reader sets.
-/

namespace WeatherRelay.Json

/-- A value with how deep its containers nest and whether a broken leaf stands somewhere in it. -/
structure Document where
  value : Value
  depth : Nat
  sound : Bool

namespace Document

/-- A container that is still open, with its content so far, last first; an object also holds the name of the member
that is being read. An object with a name that stands for no text has no content. -/
inductive Frame where
  | array (items : List Value)
  | object (members : Option (List (String × Value))) (key : Option String)

/-- What may come next: a value, a value or the end of an empty array, a name, a name or the end of an empty object, a
colon, a comma or an end, or nothing. -/
inductive Expect where
  | value
  | item
  | key
  | firstKey
  | colon
  | more
  | nothing
deriving DecidableEq

/-- A document that is being read. -/
structure Reader where
  frames : List Frame := []
  expect : Expect := .value
  result : Value := .null
  depth : Nat := 0
  sound : Bool := true

namespace Reader

/-- Puts a finished value where it belongs. -/
def put (r : Reader) (v : Value) : Reader :=
  match r.frames with
  | [] => { r with result := v, expect := .nothing }
  | .array items :: outer => { r with frames := .array (v :: items) :: outer, expect := .more }
  | .object members key :: outer =>
    let members := members.bind fun ms => key.map fun k => (k, v) :: ms
    { r with frames := .object members none :: outer, expect := .more }

/-- Opens a container. -/
def enter (r : Reader) (object : Bool) : Reader :=
  let frames := (if object then .object (some []) none else .array []) :: r.frames
  { r with frames, expect := if object then .firstKey else .item, depth := max r.depth frames.length }

/-- Closes the innermost container, which has to be of the kind named. -/
def leave? (r : Reader) (object : Bool) : Option Reader :=
  match r.frames, object with
  | .array items :: outer, false => some ({ r with frames := outer }.put (.array items.reverse))
  | .object members _ :: outer, true =>
    let v := match members with
      | some ms => .object ms.reverse
      | none => .broken
    some ({ r with frames := outer }.put v)
  | _, _ => none

/-- The value of a token that is one by itself. -/
def leaf? : Token → Option Value
  | .null => some .null
  | .boolean b => some (.boolean b)
  | .number n => some ((n.map Value.number).getD .broken)
  | .text s => some ((s.map Value.text).getD .broken)
  | _ => none

/-- Reads the beginning of a value. -/
def begin? (r : Reader) (t : Token) : Option Reader :=
  match t with
  | .open_ object => some (r.enter object)
  | t => (leaf? t).map fun v => { r with sound := r.sound && !(v matches .broken) }.put v

/-- Reads a name. -/
def name? (r : Reader) (t : Token) : Option Reader :=
  match t, r.frames with
  | .text s, .object members _ :: outer =>
    some { r with frames := .object members s :: outer, expect := .colon, sound := r.sound && s.isSome }
  | _, _ => none

/-- Reads one token. -/
def step? (r : Reader) (t : Token) : Option Reader :=
  match r.expect, t with
  | .value, t => r.begin? t
  | .item, .close object => r.leave? object
  | .item, t => r.begin? t
  | .key, t => r.name? t
  | .firstKey, .close object => r.leave? object
  | .firstKey, t => r.name? t
  | .colon, .colon => some { r with expect := .value }
  | .more, .close object => r.leave? object
  | .more, .comma =>
    match r.frames with
    | .array _ :: _ => some { r with expect := .value }
    | .object _ _ :: _ => some { r with expect := .key }
    | [] => none
  | _, _ => none

end Reader

/-- The document that characters hold, if they hold exactly one. -/
def ofUnits? (text : List (Option Char)) : Option Document :=
  ((Token.all? text).bind (·.foldlM Reader.step? {})).bind fun r =>
    if r.expect = .nothing then some ⟨r.result, r.depth, r.sound⟩ else none

/-- The document that a text holds. -/
def of? (text : String) : Option Document := ofUnits? (text.toList.map some)

/-- The document that bytes hold. -/
def ofBytes? (bytes : ByteArray) : Option Document := ofUnits? (Text.decodeUtf8 bytes)

/-- The number of containers from which on a datagram nests too deep. -/
def tooDeep : Nat := 128

/-- The value of a document all of whose leaves and names stand for something, and that does not nest too deep. -/
def strict? (d : Document) : Option Value := if d.sound ∧ d.depth < tooDeep then some d.value else none

end Document

end WeatherRelay.Json
