import WeatherRelay.Json.Number

/-!
# JSON tokens

Text is cut into tokens one character at a time. Between tokens only the four blanks of JSON stand; a character
that no token can hold refuses the text. Bytes that make no character may stand inside quotes, where they spoil the
text that they stand in.
-/

namespace WeatherRelay.Json

/-- A token. A number or a text that stands for no value has none. -/
inductive Token where
  | open_ (object : Bool)
  | close (object : Bool)
  | colon
  | comma
  | null
  | boolean (b : Bool)
  | number (n : Option Number)
  | text (s : Option String)

namespace Token

/-- A text under construction: its characters, last first, until half of a surrogate pair was left alone; and the half
of a pair that waits for the other one. -/
structure Building where
  chars : Option (List Char) := some []
  half : Option Nat := none

namespace Building

/-- A waiting half that is not completed spoils the text. -/
def settle (b : Building) : Building := if b.half.isSome then ⟨none, none⟩ else b

/-- Adds a character. -/
def add (b : Building) (c : Char) : Building :=
  let b := b.settle
  { b with chars := b.chars.map (c :: ·) }

/-- Adds a unit of 16 bits, given by its number. -/
def addUnit (b : Building) (unit : Nat) : Building :=
  if 0xD800 ≤ unit ∧ unit < 0xDC00 then { b.settle with half := some unit }
  else if 0xDC00 ≤ unit ∧ unit < 0xE000 then
    match b.half with
    | some high => { b with half := none }.add (Char.ofNat (0x10000 + (high - 0xD800) * 0x400 + (unit - 0xDC00)))
    | none => ⟨none, none⟩
  else b.add (Char.ofNat unit)

/-- The text, if no half of a pair was left alone. -/
def done (b : Building) : Option String := b.settle.chars.map fun cs => String.ofList cs.reverse

end Building

/-- What the next character belongs to: nothing yet, a text, an escape in it, the hexadecimal digits of an escape, or a
word or number whose characters are held last first. -/
inductive Mode where
  | between
  | inText (b : Building)
  | escape (b : Building)
  | unit (b : Building) (left code : Nat)
  | bare (chars : List Char)

/-- The tokens found, last first, and what the next character belongs to. -/
structure Lexer where
  tokens : List Token := []
  mode : Mode := .between

/-- The value of a hexadecimal digit. -/
def hexDigit? (c : Char) : Option Nat :=
  if '0' ≤ c ∧ c ≤ '9' then some (c.toNat - '0'.toNat)
  else if 'a' ≤ c ∧ c ≤ 'f' then some (c.toNat - 'a'.toNat + 10)
  else if 'A' ≤ c ∧ c ≤ 'F' then some (c.toNat - 'A'.toNat + 10)
  else none

/-- The character that an escape of one letter stands for. -/
def escaped? : Char → Option Char
  | '"' => some '"'
  | '\\' => some '\\'
  | '/' => some '/'
  | 'b' => some '\x08'
  | 'f' => some '\x0c'
  | 'n' => some '\n'
  | 'r' => some '\r'
  | 't' => some '\t'
  | _ => none

/-- The token that a word or a number makes. -/
def ofBare? (chars : List Char) : Option Token :=
  match chars with
  | ['n', 'u', 'l', 'l'] => some .null
  | ['t', 'r', 'u', 'e'] => some (.boolean true)
  | ['f', 'a', 'l', 's', 'e'] => some (.boolean false)
  | cs => (Literal.of? cs).map fun l => .number l.value?

/-- Whether a character can stand in a word or a number. -/
def isBare (c : Char) : Bool := c.isAlphanum || c == '+' || c == '-' || c == '.'

namespace Lexer

/-- Adds a token. -/
def emit (l : Lexer) (t : Token) : Lexer := ⟨t :: l.tokens, .between⟩

/-- Reads a character between tokens. -/
def start? (l : Lexer) (c : Char) : Option Lexer :=
  match c with
  | ' ' | '\n' | '\t' | '\r' => some l
  | '[' => some (l.emit (.open_ false))
  | ']' => some (l.emit (.close false))
  | '\x7b' => some (l.emit (.open_ true))
  | '\x7d' => some (l.emit (.close true))
  | ':' => some (l.emit .colon)
  | ',' => some (l.emit .comma)
  | '"' => some { l with mode := .inText {} }
  | c => if isBare c then some { l with mode := .bare [c] } else none

/-- Ends a word or a number, if one is being read. -/
def finish? (l : Lexer) : Option Lexer :=
  match l.mode with
  | .between => some l
  | .bare chars => (ofBare? chars.reverse).map l.emit
  | _ => none

/-- Reads one character. A control character has no place in a text. -/
def read? (l : Lexer) (c : Char) : Option Lexer :=
  match l.mode with
  | .between => l.start? c
  | .inText b =>
    if c = '"' then some (l.emit (.text b.done))
    else if c = '\\' then some { l with mode := .escape b }
    else if c.toNat < 0x20 then none
    else some { l with mode := .inText (b.add c) }
  | .escape b =>
    if c = 'u' then some { l with mode := .unit b 3 0 }
    else (escaped? c).map fun e => { l with mode := .inText (b.add e) }
  | .unit b left code =>
    (hexDigit? c).map fun d =>
      let code := code * 16 + d
      { l with mode := if left = 0 then .inText (b.addUnit code) else .unit b (left - 1) code }
  | .bare chars =>
    if isBare c then some { l with mode := .bare (c :: chars) }
    else l.finish?.bind (·.start? c)

/-- Reads one character, or bytes that make none. -/
def step? (l : Lexer) : Option Char → Option Lexer
  | some c => l.read? c
  | none =>
    match l.mode with
    | .inText _ => some { l with mode := .inText ⟨none, none⟩ }
    | _ => none

end Lexer

/-- The tokens of a text. -/
def all? (text : List (Option Char)) : Option (List Token) :=
  ((text.foldlM Lexer.step? {}).bind Lexer.finish?).map (·.tokens.reverse)

end Token

end WeatherRelay.Json
