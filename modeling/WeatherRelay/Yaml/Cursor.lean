/-!
# A place in a YAML text

The characters from a place on, with its line, its column and its distance from the beginning in bytes. A line ends
with a line feed, a carriage return or both, a next-line character, or a line or paragraph separator; the first
four stand for a line feed.
-/

namespace WeatherRelay.Yaml

/-- A place in a text, with the characters that follow it. -/
structure Cursor where
  rest : List Char
  line : Nat := 0
  column : Nat := 0
  index : Nat := 0

/-- The characters that end a line. -/
def isBreak (c : Char) : Bool := c == '\n' || c == '\r' || c == '\u0085' || c == '\u2028' || c == '\u2029'

/-- Space and tab. -/
def isBlank (c : Char) : Bool := c == ' ' || c == '\t'

/-- Letters and digits of ASCII, `_` and `-`, which names are made of. -/
def isWordChar (c : Char) : Bool := c.isAlphanum || c == '_' || c == '-'

/-- The characters that a text may hold. -/
def isAllowed (c : Char) : Bool :=
  let n := c.toNat
  n == 0x9 || n == 0xA || n == 0xD || (0x20 ≤ n && n ≤ 0x7E) || n == 0x85 || (0xA0 ≤ n && n ≤ 0xD7FF) ||
    (0xE000 ≤ n && n ≤ 0xFFFD) || (0x10000 ≤ n && n ≤ 0x10FFFF)

namespace Cursor

/-- The next character. -/
def peek (c : Cursor) : Option Char := c.rest.head?

/-- The character some places ahead. -/
def peekAt (c : Cursor) (n : Nat) : Option Char := c.rest[n]?

/-- Whether a certain character comes next. -/
def sees (c : Cursor) (x : Char) : Bool := c.rest.head? == some x

/-- Whether the text has ended. -/
def atEnd (c : Cursor) : Bool := c.rest.isEmpty

/-- Whether a line ends here. -/
def atBreak (c : Cursor) : Bool := c.rest.head?.any isBreak

/-- Whether a blank comes next. -/
def atBlank (c : Cursor) : Bool := c.rest.head?.any isBlank

/-- Whether a line or the text ends here. -/
def atBreakOrEnd (c : Cursor) : Bool := c.rest.head?.all isBreak

/-- Whether a blank, the end of a line or the end of the text comes next. -/
def atGap (c : Cursor) : Bool := c.rest.head?.all fun x => isBlank x || isBreak x

/-- The place `n` characters on, within a line. -/
def forward (c : Cursor) (n : Nat) : Cursor :=
  ⟨c.rest.drop n, c.line, c.column + n, (c.rest.take n).foldl (fun i x => i + x.utf8Size) c.index⟩

/-- The place after the next character, within a line. -/
def next (c : Cursor) : Cursor := c.forward 1

/-- The place after the end of a line, and what the end stands for; nothing is passed where no line ends. -/
def nextLine (c : Cursor) : List Char × Cursor :=
  match c.rest with
  | '\r' :: '\n' :: rest => (['\n'], ⟨rest, c.line + 1, 0, c.index + 2⟩)
  | x :: rest =>
    if x == '\u2028' || x == '\u2029' then ([x], ⟨rest, c.line + 1, 0, c.index + x.utf8Size⟩)
    else if isBreak x then (['\n'], ⟨rest, c.line + 1, 0, c.index + x.utf8Size⟩)
    else ([], c)
  | [] => ([], c)

/-- The characters of a class that come next, and the place after them. The class holds no character that ends a line. -/
def take (c : Cursor) (p : Char → Bool) : List Char × Cursor :=
  let found := c.rest.takeWhile p
  (found, c.forward found.length)

/-- The place after the characters of a class. -/
def skip (c : Cursor) (p : Char → Bool) : Cursor := (c.take p).2

/-- The place at the end of the line. -/
def skipLine (c : Cursor) : Cursor := c.skip fun x => !isBreak x

/-- The place after blanks, a comment and the end of the line; none if something else stands there. -/
def endLine? (c : Cursor) : Option Cursor :=
  let c := c.skip isBlank
  let c := if c.sees '#' then c.skipLine else c
  if c.atBreakOrEnd then some c.nextLine.2 else none

/-- Whether three dashes or three points stand at the beginning of a line, with nothing after them. -/
def atDocumentMark (c : Cursor) : Bool :=
  c.column == 0 && (c.rest.take 3 == ['-', '-', '-'] || c.rest.take 3 == ['.', '.', '.']) && (c.forward 3).atGap

end Cursor

end WeatherRelay.Yaml
