import WeatherRelay.Yaml.Tag

/-!
# YAML tokens

The text is cut into tokens. Indentation opens and closes block collections, and whether something was a key
shows only at the colon after it: the place where a key may have begun is remembered, and the tokens that open it
are put there afterwards.
-/

namespace WeatherRelay.Yaml

/-- How a scalar was written, as far as it matters. -/
inductive Style where
  | plain
  | literal
  | other
deriving DecidableEq, Repr

/-- A token. -/
inductive Token where
  | version (major minor : Nat)
  | tagDirective (handle lead : String)
  | documentStart
  | documentEnd
  | blockSequenceStart
  | blockMappingStart
  | blockEnd
  | flowSequenceStart
  | flowSequenceEnd
  | flowMappingStart
  | flowMappingEnd
  | blockEntry
  | flowEntry
  | key
  | value
  | alias (name : String)
  | anchor (name : String)
  | tag (handle suffix : String)
  | scalar (text : String) (style : Style)
  | streamEnd
deriving DecidableEq, Repr

/-- A place where a key may have begun, with the number of tokens before it. It has to be one if a block
mapping is open there. -/
structure KeyPlace where
  required : Bool
  token : Nat
  cursor : Cursor

/-- The state of reading: the place, the tokens so far, the indentation of the open block collections, innermost
first, whether a key may begin here, and where one may have begun: outside brackets and inside each open pair of
brackets, innermost first. -/
structure Lexer where
  cursor : Cursor
  tokens : Array Token := #[]
  indents : List Nat := []
  keyAllowed : Bool := true
  outer : Option KeyPlace := none
  inner : List (Option KeyPlace) := []

namespace Lexer

/-- Whether brackets are open. -/
def inFlow (l : Lexer) : Bool := !l.inner.isEmpty

/-- Where a key may have begun, inside the innermost brackets. -/
def keyPlace (l : Lexer) : Option KeyPlace := l.inner.headD l.outer

/-- Sets where a key may have begun. -/
def setKeyPlace (l : Lexer) (k : Option KeyPlace) : Lexer :=
  match l.inner with
  | [] => { l with outer := k }
  | _ :: rest => { l with inner := k :: rest }

/-- Adds a token. -/
def emit (l : Lexer) (t : Token) : Lexer := { l with tokens := l.tokens.push t }

/-- Forgets where a key may have begun; it may not be forgotten where there has to be one. -/
def dropKey? (l : Lexer) : Option Lexer :=
  match l.keyPlace with
  | some k => if k.required then none else some (l.setKeyPlace none)
  | none => some l

/-- Remembers that a key may begin here. -/
def saveKey? (l : Lexer) : Option Lexer :=
  if l.keyAllowed then
    let required := !l.inFlow && l.indents.head? == some l.cursor.column
    l.dropKey?.map (·.setKeyPlace (some ⟨required, l.tokens.size, l.cursor⟩))
  else some l

/-- A key lies on one line and is not longer than 1024 bytes. -/
def isStale (now : Cursor) (k : KeyPlace) : Bool := k.cursor.line < now.line || k.cursor.index + 1024 < now.index

/-- A remembered place that no key can begin at any more is forgotten. -/
def fresh? (now : Cursor) : Option KeyPlace → Option (Option KeyPlace)
  | none => some none
  | some k => if isStale now k then (if k.required then none else some none) else some (some k)

/-- Forgets all places that are too far back. -/
def dropStale? (l : Lexer) : Option Lexer := do
  return { l with outer := ← fresh? l.cursor l.outer, inner := ← l.inner.mapM (fresh? l.cursor) }

/-- Opens a block collection if the column lies deeper than the innermost one; its token is put at a
place among the tokens. -/
def roll (l : Lexer) (column place : Nat) (t : Token) : Lexer :=
  if l.inFlow || l.indents.head?.any (column ≤ ·) then l
  else { l with indents := column :: l.indents, tokens := l.tokens.insertIdxIfInBounds place t }

/-- Closes the block collections that lie deeper than a column. -/
def closing (column : Nat) : List Nat → Array Token → List Nat × Array Token
  | [], tokens => ([], tokens)
  | n :: rest, tokens => if column < n then closing column rest (tokens.push .blockEnd) else (n :: rest, tokens)

/-- Closes the block collections that lie deeper than a column, outside brackets. -/
def unroll (l : Lexer) (column : Nat) : Lexer :=
  if l.inFlow then l
  else
    let (indents, tokens) := closing column l.indents l.tokens
    { l with indents, tokens }

/-- Closes all block collections, outside brackets. -/
def unrollAll (l : Lexer) : Lexer :=
  if l.inFlow then l else { l with indents := [], tokens := l.indents.foldl (fun ts _ => ts.push .blockEnd) l.tokens }

/-- The place of the next token: after blanks, comments and ends of lines, and after a byte order mark that begins a
line. Outside brackets a tab is no blank where a key may begin, and a key may begin on every new line. -/
def toNext : Nat → Lexer → Lexer
  | 0, l => l
  | fuel + 1, l =>
    let c := if l.cursor.column == 0 && l.cursor.sees '\ufeff' then l.cursor.next else l.cursor
    let c := c.skip fun x => x == ' ' || (x == '\t' && (l.inFlow || !l.keyAllowed))
    let c := if c.sees '#' then c.skipLine else c
    if c.atBreak then toNext fuel { l with cursor := c.nextLine.2, keyAllowed := l.keyAllowed || !l.inFlow }
    else { l with cursor := c }

/-- Adds the token of a sign of some characters. -/
def sign (l : Lexer) (width : Nat) (t : Token) : Lexer := { l.emit t with cursor := l.cursor.forward width }

/-- Reads a directive. -/
def directive? (l : Lexer) : Option Lexer :=
  l.unrollAll.dropKey?.bind fun l => (Directive.name? l.cursor).bind fun (name, c) =>
    let read : Option (Token × Cursor) :=
      if name = "YAML" then (Directive.version? c).map fun (v, c) => (.version v.1 v.2, c)
      else if name = "TAG" then (Directive.tag? c).map fun (d, c) => (.tagDirective d.1 d.2, c)
      else none
    read.bind fun (t, c) => c.endLine?.map fun c => { l.emit t with cursor := c, keyAllowed := false }

/-- Reads a mark between documents. -/
def documentMark? (l : Lexer) (t : Token) : Option Lexer :=
  l.unrollAll.dropKey?.map fun l => { l.sign 3 t with keyAllowed := false }

/-- Opens brackets. -/
def openFlow? (l : Lexer) (t : Token) : Option Lexer :=
  l.saveKey?.map fun l => { l.sign 1 t with inner := none :: l.inner, keyAllowed := true }

/-- Closes brackets. -/
def closeFlow? (l : Lexer) (t : Token) : Option Lexer :=
  l.dropKey?.map fun l => { l.sign 1 t with inner := l.inner.drop 1, keyAllowed := false }

/-- Reads a comma. -/
def flowEntry? (l : Lexer) : Option Lexer := l.dropKey?.map fun l => { l.sign 1 .flowEntry with keyAllowed := true }

/-- Reads the dash of a sequence. -/
def blockEntry? (l : Lexer) : Option Lexer :=
  if !l.inFlow && !l.keyAllowed then none
  else
    (l.roll l.cursor.column l.tokens.size .blockSequenceStart).dropKey?.map fun l =>
      { l.sign 1 .blockEntry with keyAllowed := true }

/-- Reads the question mark before a key. -/
def key? (l : Lexer) : Option Lexer :=
  if !l.inFlow && !l.keyAllowed then none
  else
    (l.roll l.cursor.column l.tokens.size .blockMappingStart).dropKey?.map fun l =>
      { l.sign 1 .key with keyAllowed := !l.inFlow }

/-- Reads the colon before a value. What was read since the remembered place becomes its key. -/
def value? (l : Lexer) : Option Lexer :=
  match l.keyPlace with
  | some k =>
    let l := { l with tokens := l.tokens.insertIdxIfInBounds k.token .key }
    let l := (l.roll k.cursor.column k.token .blockMappingStart).setKeyPlace none
    some { l.sign 1 .value with keyAllowed := false }
  | none =>
    if !l.inFlow && !l.keyAllowed then none
    else
      let l := l.roll l.cursor.column l.tokens.size .blockMappingStart
      some { l.sign 1 .value with keyAllowed := !l.inFlow }

/-- Reads an anchor or an alias. -/
def anchor? (l : Lexer) (t : String → Token) : Option Lexer :=
  l.saveKey?.bind fun l => (anchorName? l.cursor).map fun (name, c) => { l.emit (t name) with cursor := c, keyAllowed := false }

/-- Reads a tag. -/
def tag? (l : Lexer) : Option Lexer :=
  l.saveKey?.bind fun l => (Tag.read? l.inFlow l.cursor).map fun (h, s, c) =>
    { l.emit (.tag h s) with cursor := c, keyAllowed := false }

/-- Reads a block scalar. -/
def block? (l : Lexer) (literal : Bool) : Option Lexer :=
  l.dropKey?.bind fun l => (Block.read? literal l.indents.head? l.cursor).map fun (s, c) =>
    { l.emit (.scalar s (if literal then .literal else .other)) with cursor := c, keyAllowed := true }

/-- Reads a quoted scalar. -/
def quoted? (l : Lexer) (single : Bool) : Option Lexer :=
  l.saveKey?.bind fun l => (Quoted.read? single l.cursor).map fun (s, c) =>
    { l.emit (.scalar s .other) with cursor := c, keyAllowed := false }

/-- Reads a plain scalar. A key may begin after it if it ended after an end of line. -/
def plain? (l : Lexer) : Option Lexer :=
  l.saveKey?.bind fun l =>
    let indent := match l.indents.head? with
      | some n => n + 1
      | none => 0
    (Plain.read? l.inFlow indent l.cursor).map fun (s, broken, c) =>
      { l.emit (.scalar s .plain) with cursor := c, keyAllowed := broken }

/-- The characters that no plain scalar begins with, unless what follows them says otherwise. -/
def isIndicator (c : Char) : Bool :=
  c ∈ ['-', '?', ':', ',', '[', ']', '\x7b', '\x7d', '#', '&', '*', '!', '|', '>', '\'', '"', '%', '@', '\x60']

/-- Whether a plain scalar begins here. -/
def beginsPlain (l : Lexer) (x : Char) : Bool :=
  !(isIndicator x || isBlank x || isBreak x) || (x == '-' && !(l.cursor.forward 1).atBlank) ||
    (!l.inFlow && (x == '?' || x == ':') && !(l.cursor.forward 1).atGap)

/-- Reads the token that begins with a character. -/
def token? (l : Lexer) (x : Char) : Option Lexer :=
  let c := l.cursor
  if c.column == 0 && x == '%' then l.directive?
  else if c.atDocumentMark then l.documentMark? (if x = '-' then .documentStart else .documentEnd)
  else if x = '[' then l.openFlow? .flowSequenceStart
  else if x = '\x7b' then l.openFlow? .flowMappingStart
  else if x = ']' then l.closeFlow? .flowSequenceEnd
  else if x = '\x7d' then l.closeFlow? .flowMappingEnd
  else if x = ',' then l.flowEntry?
  else if x == '-' && (c.forward 1).atGap then l.blockEntry?
  else if x == '?' && (l.inFlow || (c.forward 1).atGap) then l.key?
  else if x == ':' && (l.inFlow || (c.forward 1).atGap) then l.value?
  else if x = '*' then l.anchor? .alias
  else if x = '&' then l.anchor? .anchor
  else if x = '!' then l.tag?
  else if x == '|' && !l.inFlow then l.block? true
  else if x == '>' && !l.inFlow then l.block? false
  else if x = '\'' then l.quoted? true
  else if x = '"' then l.quoted? false
  else if l.beginsPlain x then l.plain?
  else none

/-- Reads tokens up to the end of the text. -/
def run? : Nat → Lexer → Option (Array Token)
  | 0, _ => none
  | fuel + 1, l =>
    (toNext (l.cursor.rest.length + 1) l).dropStale?.bind fun l =>
      let l := l.unroll l.cursor.column
      match l.cursor.peek with
      | none => l.unrollAll.dropKey?.map fun l => (l.emit .streamEnd).tokens
      | some x => (l.token? x).bind (run? fuel)

end Lexer

/-- The tokens of a text. -/
def tokens? (text : String) : Option (List Token) :=
  let chars := text.toList
  if chars.all isAllowed then (Lexer.run? (chars.length + 1) { cursor := ⟨chars, 0, 0, 0⟩ }).map Array.toList else none

end WeatherRelay.Yaml
