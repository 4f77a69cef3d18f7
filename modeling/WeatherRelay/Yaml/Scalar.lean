import WeatherRelay.Yaml.Cursor

/-!
# Reading YAML scalars

Plain, quoted and block scalars. Where a scalar runs over several lines, one end of line between two of its lines
becomes a space, and of several all but the first are kept.
-/

namespace WeatherRelay.Yaml

/-- What stands between two words of a scalar: blanks, or ends of lines, of which the first is held apart. -/
structure Gap where
  blanks : List Char := []
  broken : Bool := false
  first : List Char := []
  more : List Char := []

/-- What a gap contributes to the text. -/
def Gap.text (g : Gap) : List Char :=
  if !g.broken then g.blanks
  else if g.first.head? = some '\n' then (if g.more.isEmpty then [' '] else g.more)
  else g.first ++ g.more

namespace Gap

/-- Reads a gap. Where an indentation is given, no tab may stand before it on a new line. -/
def read? (indent : Option Nat) : Nat → Gap → Cursor → Option (Gap × Cursor)
  | 0, g, c => some (g, c)
  | fuel + 1, g, c =>
    if c.atBlank then
      if g.broken && c.sees '\t' && indent.any (c.column < ·) then none
      else if g.broken then read? indent fuel g c.next
      else read? indent fuel { g with blanks := g.blanks ++ c.peek.toList } c.next
    else if c.atBreak then
      let (line, c) := c.nextLine
      if g.broken then read? indent fuel { g with more := g.more ++ line } c
      else read? indent fuel { g with broken := true, blanks := [], first := line } c
    else some (g, c)

end Gap

/-- The value of a hexadecimal digit. -/
def hexValue? (c : Char) : Option Nat :=
  if '0' ≤ c ∧ c ≤ '9' then some (c.toNat - '0'.toNat)
  else if 'a' ≤ c ∧ c ≤ 'f' then some (c.toNat - 'a'.toNat + 10)
  else if 'A' ≤ c ∧ c ≤ 'F' then some (c.toNat - 'A'.toNat + 10)
  else none

/-- The value of hexadecimal digits. -/
def hexNumber? (cs : List Char) : Option Nat := cs.foldlM (fun n c => (hexValue? c).map (n * 16 + ·)) 0

/-- What a letter after a backslash stands for. -/
def escapedChar? : Char → Option Char
  | '0' => some '\x00'
  | 'a' => some '\x07'
  | 'b' => some '\x08'
  | 't' => some '\t'
  | '\t' => some '\t'
  | 'n' => some '\n'
  | 'v' => some '\x0b'
  | 'f' => some '\x0c'
  | 'r' => some '\r'
  | 'e' => some '\x1b'
  | ' ' => some ' '
  | '"' => some '"'
  | '/' => some '/'
  | '\\' => some '\\'
  | 'N' => some '\u0085'
  | '_' => some '\u00a0'
  | 'L' => some '\u2028'
  | 'P' => some '\u2029'
  | _ => none

/-- The number of hexadecimal digits that a letter after a backslash announces. -/
def escapeLength? : Char → Option Nat
  | 'x' => some 2
  | 'u' => some 4
  | 'U' => some 8
  | _ => none

/-- Reads an escape at a backslash. A code has to be that of a character. -/
def escape? (c : Cursor) : Option (Char × Cursor) :=
  (c.peekAt 1).bind fun letter =>
    match escapeLength? letter with
    | none => (escapedChar? letter).map fun x => (x, c.forward 2)
    | some n =>
      let digits := (c.rest.drop 2).take n
      if digits.length < n then none
      else (hexNumber? digits).bind fun code =>
        if code.isValidChar then some (Char.ofNat code, c.forward (2 + n)) else none

namespace Quoted

/-- A part of a quoted scalar up to a gap or the closing quote: its characters, last first, and whether an escaped
end of line ended it. -/
def part? (single : Bool) : Nat → List Char → Cursor → Option (List Char × Bool × Cursor)
  | 0, acc, c => some (acc, false, c)
  | fuel + 1, acc, c =>
    match c.peek with
    | none => some (acc, false, c)
    | some x =>
      if isBlank x || isBreak x then some (acc, false, c)
      else if single && x == '\'' && (c.forward 1).sees '\'' then part? single fuel ('\'' :: acc) (c.forward 2)
      else if x == (if single then '\'' else '"') then some (acc, false, c)
      else if !single && x == '\\' && (c.forward 1).atBreak then some (acc, true, c.next.nextLine.2)
      else if !single && x == '\\' then
        (escape? c).bind fun (e, c) => part? single fuel (e :: acc) c
      else part? single fuel (x :: acc) c.next

/-- The parts of a quoted scalar with their gaps, up to the place after the closing quote. -/
def parts? (single : Bool) : Nat → List Char → Cursor → Option (List Char × Cursor)
  | 0, _, _ => none
  | fuel + 1, acc, c =>
    if c.atDocumentMark || c.atEnd then none
    else (part? single c.rest.length acc c).bind fun (acc, broken, c) =>
      if c.sees (if single then '\'' else '"') then some (acc, c.next)
      else (Gap.read? none c.rest.length { broken } c).bind fun (g, c) => parts? single fuel (g.text.reverse ++ acc) c

/-- Reads a quoted scalar at its opening quote. -/
def read? (single : Bool) (c : Cursor) : Option (String × Cursor) :=
  (parts? single (c.rest.length + 1) [] c.next).map fun (acc, c) => (String.ofList acc.reverse, c)

end Quoted

namespace Plain

/-- Whether a plain scalar ends here: at a colon before a gap, and inside brackets at a comma or a bracket. -/
def endsAt (inFlow : Bool) (c : Cursor) : Bool :=
  (c.sees ':' && (c.forward 1).atGap) || (inFlow && c.peek.any fun x => x ∈ [',', '[', ']', '\x7b', '\x7d'])

/-- Whether a colon stands before a character of the brackets, which no plain scalar inside brackets may hold. -/
def misplacedColon (inFlow : Bool) (c : Cursor) : Bool :=
  inFlow && c.sees ':' && (c.peekAt 1).any fun x => x ∈ [',', '?', '[', ']', '\x7b', '\x7d']

/-- A word: characters, last first, up to a gap or the end of the scalar. -/
def word? (inFlow : Bool) : Nat → List Char → Cursor → Option (List Char × Cursor)
  | 0, acc, c => some (acc, c)
  | fuel + 1, acc, c =>
    match c.peek with
    | none => some (acc, c)
    | some x =>
      if isBlank x || isBreak x then some (acc, c)
      else if misplacedColon inFlow c then none
      else if endsAt inFlow c then some (acc, c)
      else word? inFlow fuel (x :: acc) c.next

/-- Words with the gaps between them; `g` is the gap before the next word. Says whether the scalar ended
after an end of line. -/
def words? (inFlow : Bool) (indent : Nat) : Nat → List Char → Gap → Cursor → Option (List Char × Bool × Cursor)
  | 0, acc, g, c => some (acc, g.broken, c)
  | fuel + 1, acc, g, c =>
    if c.atDocumentMark || c.sees '#' then some (acc, g.broken, c)
    else (word? inFlow c.rest.length [] c).bind fun (word, after) =>
      let (acc, g) := if word.isEmpty then (acc, g) else (word ++ g.text.reverse ++ acc, {})
      if !(after.atBlank || after.atBreak) then some (acc, g.broken, after)
      else (Gap.read? (some indent) after.rest.length g after).bind fun (g, c) =>
        if !inFlow && c.column < indent then some (acc, g.broken, c)
        else words? inFlow indent fuel acc g c

/-- Reads a plain scalar; lines after the first are indented by at least `indent`. -/
def read? (inFlow : Bool) (indent : Nat) (c : Cursor) : Option (String × Bool × Cursor) :=
  (words? inFlow indent (c.rest.length + 1) [] {} c).map fun (acc, broken, c) => (String.ofList acc.reverse, broken, c)

end Plain

namespace Block

/-- What is kept of the ends of lines after the last line: none, one, or all. -/
inductive Chomping where
  | strip
  | clip
  | keep
deriving DecidableEq

/-- The sign of a chomping. -/
def chomping? : Option Char → Option Chomping
  | some '+' => some .keep
  | some '-' => some .strip
  | _ => none

/-- A digit for the indentation, which is not zero. -/
def increment? (c : Cursor) : Option (Option Nat × Cursor) :=
  match c.peek with
  | some x =>
    if x.isDigit then (if x = '0' then none else some (some (x.toNat - '0'.toNat), c.next)) else some (none, c)
  | none => some (none, c)

/-- What follows the sign of a block scalar: a chomping and a digit, in either order. -/
def header? (c : Cursor) : Option (Chomping × Option Nat × Cursor) :=
  match chomping? c.peek with
  | some chomping => (increment? c.next).map fun (n, c) => (chomping, n, c)
  | none =>
    (increment? c).map fun (n, after) =>
      match n, chomping? after.peek with
      | some _, some chomping => (chomping, n, after.next)
      | _, _ => (.clip, n, after)

/-- Empty lines before content, with the indentation they have at most. While the indentation is not known every space
counts to it; a tab may not stand where a space of the indentation should. -/
def emptyLines? (indent : Option Nat) : Nat → Nat → List Char → Cursor → Option (Nat × List Char × Cursor)
  | 0, widest, breaks, c => some (widest, breaks, c)
  | fuel + 1, widest, breaks, c =>
    let spaces := c.rest.takeWhile (· == ' ')
    let count := match indent with
      | none => spaces.length
      | some n => min spaces.length (n - c.column)
    let c := c.forward count
    let widest := max widest c.column
    if indent.all (c.column < ·) && c.sees '\t' then none
    else if c.atBreak then
      let (line, c) := c.nextLine
      emptyLines? indent fuel widest (breaks ++ line) c
    else some (widest, breaks, c)

/-- The state of a block scalar: its characters, last first, the end of its last line, the empty lines after it, and
whether that line began with a blank. -/
structure Lines where
  text : List Char := []
  first : List Char := []
  more : List Char := []
  indented : Bool := false

/-- The lines of a block scalar with an indentation. A folded scalar joins two lines that do not begin with a blank. -/
def lines? (literal : Bool) (indent : Nat) : Nat → Lines → Cursor → Option (Lines × Cursor)
  | 0, l, c => some (l, c)
  | fuel + 1, l, c =>
    if c.column ≠ indent || c.atEnd then some (l, c)
    else
      let blank := c.atBlank
      let joined := !literal && l.first.head? == some '\n' && !l.indented && !blank
      let between := if joined then (if l.more.isEmpty then [' '] else []) else l.first
      let (content, c) := c.take fun x => !isBreak x
      let text := content.reverse ++ l.more.reverse ++ between.reverse ++ l.text
      let (first, c) := c.nextLine
      (emptyLines? (some indent) (c.rest.length + 1) 0 [] c).bind fun (_, more, c) =>
        lines? literal indent fuel { text, first, more, indented := blank } c

/-- Reads a block scalar at its sign; `outer` is the indentation around it, if any. -/
def read? (literal : Bool) (outer : Option Nat) (c : Cursor) : Option (String × Cursor) :=
  (header? c.next).bind fun (chomping, increment, c) => c.endLine?.bind fun c =>
    let given := increment.map fun n => outer.getD 0 + n
    (emptyLines? given (c.rest.length + 1) 0 [] c).bind fun (widest, more, c) =>
      let least := match outer with
        | some n => n + 1
        | none => 0
      let indent := given.getD (max 1 (max widest least))
      (lines? literal indent (c.rest.length + 1) { more } c).map fun (l, c) =>
        let last := match chomping with
          | .strip => []
          | .clip => l.first
          | .keep => l.first ++ l.more
        (String.ofList (l.text.reverse ++ last), c)

end Block

end WeatherRelay.Yaml
