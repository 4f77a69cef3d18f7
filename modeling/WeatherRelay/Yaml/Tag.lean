import WeatherRelay.Yaml.Scalar

/-!
# Reading YAML names, tags and directives

An anchor's name, a tag as a handle with a suffix, and the two directives.
-/

namespace WeatherRelay.Yaml

/-- Reads the name of an anchor or an alias at its sign. -/
def anchorName? (c : Cursor) : Option (String × Cursor) :=
  let (name, c) := c.next.take isWordChar
  if name.isEmpty then none
  else if c.atGap || c.peek.any fun x => x ∈ ['?', ':', ',', ']', '\x7d', '%', '@', '\x60'] then some (String.ofList name, c)
  else none

namespace Tag

/-- The characters of a tag; inside angle brackets a comma and square brackets too. -/
def isUriChar (verbatim : Bool) (c : Char) : Bool :=
  isWordChar c || c ∈ [';', '/', '?', ':', '@', '&', '=', '+', '$', '.', '%', '!', '~', '*', '\'', '(', ')'] ||
    (verbatim && c ∈ [',', '[', ']'])

/-- The octet that a percent sign and two digits stand for. -/
def octet? (c : Cursor) : Option Nat := if c.sees '%' then hexNumber? ((c.rest.drop 1).take 2) else none

/-- The number of octets of a character that begins with an octet. -/
def octetCount? (lead : Nat) : Option Nat :=
  if lead < 0x80 then some 1
  else if 0xC0 ≤ lead ∧ lead < 0xE0 then some 2
  else if 0xE0 ≤ lead ∧ lead < 0xF0 then some 3
  else if 0xF0 ≤ lead ∧ lead < 0xF8 then some 4
  else none

/-- Octets that continue a character. -/
def continued? : Nat → List UInt8 → Cursor → Option (List UInt8 × Cursor)
  | 0, acc, c => some (acc, c)
  | n + 1, acc, c =>
    if c.rest.length < 3 then none
    else (octet? c).bind fun o =>
      if 0x80 ≤ o ∧ o < 0xC0 then continued? n (o.toUInt8 :: acc) (c.forward 3) else none

/-- The bytes of a tag, last first, with escaped octets replaced. -/
def uri? (verbatim : Bool) : Nat → List UInt8 → Cursor → Option (List UInt8 × Cursor)
  | 0, acc, c => some (acc, c)
  | fuel + 1, acc, c =>
    match c.peek with
    | none => some (acc, c)
    | some x =>
      if !isUriChar verbatim x then some (acc, c)
      else if x == '%' then
        if c.rest.length < 3 then none
        else (octet? c).bind fun lead => (octetCount? lead).bind fun n =>
          (continued? (n - 1) (lead.toUInt8 :: acc) (c.forward 3)).bind fun (acc, c) => uri? verbatim fuel acc c
      else uri? verbatim fuel (x.toNat.toUInt8 :: acc) c.next

/-- The text of the bytes of a tag, which a zero byte ends; bytes that are no text make a tag that equals no other. -/
def uriText (bytes : List UInt8) : String :=
  (String.fromUTF8? ⟨(bytes.reverse.takeWhile (· ≠ 0)).toArray⟩).getD "\ufffd"

/-- Reads a handle at its exclamation mark: letters and digits, and a second exclamation mark if it is there. -/
def handle (c : Cursor) : List Char × Cursor :=
  let (name, c) := c.next.take isWordChar
  if c.sees '!' then ('!' :: name ++ ['!'], c.next) else ('!' :: name, c)

/-- Reads a tag at its exclamation mark, as a handle and a suffix. A verbatim tag has the empty handle,
and so has `!` alone. -/
def read? (inFlow : Bool) (c : Cursor) : Option (String × String × Cursor) :=
  let found : Option (String × String × Cursor) :=
    if (c.forward 1).sees '<' then
      (uri? true c.rest.length [] (c.forward 2)).bind fun (bytes, c) =>
        if bytes.isEmpty || !c.sees '>' then none else some ("", uriText bytes, c.next)
    else
      let (h, after) := handle c
      if 1 < h.length && h.getLast? == some '!' then
        (uri? false after.rest.length [] after).bind fun (bytes, c) =>
          if bytes.isEmpty then none else some (String.ofList h, uriText bytes, c)
      else
        (uri? false after.rest.length ((h.drop 1).map (·.toNat.toUInt8)).reverse after).map fun (bytes, c) =>
          if uriText bytes = "" then ("", "!", c) else ("!", uriText bytes, c)
  found.bind fun (h, s, c) => if (inFlow && c.sees ',') || c.atGap then some (h, s, c) else none

end Tag

namespace Directive

/-- A number of a version: at most nine digits. -/
def number? (c : Cursor) : Option (Nat × Cursor) :=
  let (ds, c) := c.take Char.isDigit
  if ds.isEmpty || 9 < ds.length then none
  else some (ds.foldl (fun n d => n * 10 + (d.toNat - '0'.toNat)) 0, c)

/-- The two numbers of a version. -/
def version? (c : Cursor) : Option ((Nat × Nat) × Cursor) :=
  (number? (c.skip isBlank)).bind fun (major, c) =>
    if c.sees '.' then (number? c.next).map fun (minor, c) => ((major, minor), c) else none

/-- The handle that a directive defines, and what it stands for. -/
def tag? (c : Cursor) : Option ((String × String) × Cursor) :=
  let c := c.skip isBlank
  if !c.sees '!' then none
  else
    let (h, c) := Tag.handle c
    if (h.length ≠ 1 && h.getLast? != some '!') || !c.atBlank then none
    else
      let c := c.skip isBlank
      (Tag.uri? true c.rest.length [] c).bind fun (bytes, c) =>
        if bytes.isEmpty || !c.atGap then none else some ((String.ofList h, Tag.uriText bytes), c)

/-- The name of a directive at its percent sign. -/
def name? (c : Cursor) : Option (String × Cursor) :=
  let (name, c) := c.next.take isWordChar
  if name.isEmpty || !c.atGap then none else some (String.ofList name, c)

end Directive

end WeatherRelay.Yaml
