import WeatherRelay.Net.Address
import WeatherRelay.Net.Domain.Classes
import WeatherRelay.Net.Domain.Composition
import WeatherRelay.Net.Domain.Mapping
import WeatherRelay.Net.Punycode
import WeatherRelay.Text.Basic

/-!
# Domain names

A domain name in any script as the name in ASCII that it stands for. Its characters are spelled in one way, its labels
are checked, and those with characters beyond ASCII are encoded.
-/

namespace WeatherRelay.Net.Domain

/-- Whether a label has characters beyond ASCII. -/
def isForeign (label : List Char) : Bool := label.any fun c => 0x80 ≤ c.toNat

/-- How encoded labels begin. -/
def encodedStart : List Char := ['x', 'n', '-', '-']

/-- The length from which on an encoded label is not read. -/
def longestEncoded : Nat := 2000

/-- The length from which on a label is not encoded. -/
def longestLabel : Nat := 1000

/-- The mark class of the signs that take the vowel from a letter. -/
def vowelKiller : Nat := 9

/-- Whether letters on both sides of a place would join there. -/
def wouldJoin (before after : List Char) : Bool :=
  (before.dropWhile isTransparent).head?.any joinsNext && (after.dropWhile isTransparent).head?.any joinsLast

/-- Whether what makes letters join or keeps them apart stands only where it matters, after the characters of the list
`before`, which is in reverse. -/
def joinersFit (before : List Char) : List Char → Bool
  | [] => true
  | c :: rest =>
    let fits := before.head?.any fun b => markClass b.toNat == vowelKiller
    (if c = joiner then fits else if c = nonJoiner then fits || wouldJoin before rest else true) &&
      joinersFit (c :: before) rest

/-- Whether a label can stand in a domain name. -/
def isFit (label : List Char) : Bool := !label.head?.any isMark && joinersFit [] label

/-- Whether a label is spelled as labels are. -/
def isSpelled (label : List Char) : Bool := label.all (fun c => spell? c == some [c]) && composed label == label

/-- The label that an encoded one stands for, which has to need the encoding; any other stands for itself. -/
def decoded? (label : List Char) : Option (List Char) :=
  if label.take 4 = encodedStart then
    if longestEncoded < label.length - 4 then none
    else (Punycode.decode? (label.drop 4)).filter fun l => isForeign l && isSpelled l && l.take 4 != encodedStart
  else if isForeign label && longestLabel < label.length then none
  else some label

/-- Whether some character of a label is written from the right. -/
def hasRight (label : List Char) : Bool := label.any fun c => direction c ∈ [.right, .rightDigit]

/-- Whether characters of several directions follow one another in a label as they may. -/
def isDirected (label : List Char) : Bool :=
  let ds := label.map direction
  let body := (ds.reverse.dropWhile (· = .mark)).reverse
  match ds.head? with
  | none => true
  | some .left => ds.all (fun d => d ∈ [.left, .digit, .neutral, .mark]) && body.getLast?.any (fun d => d ∈ [.left, .digit])
  | some .right =>
    ds.all (· ≠ .left) && body.getLast?.any (fun d => d ∈ [.right, .digit, .rightDigit]) &&
      !(ds.contains .digit && ds.contains .rightDigit)
  | some _ => false

/-- The labels of a domain name, none of them encoded. -/
def labels? (name : List Char) : Option (List (List Char)) :=
  (name.mapM spell?).bind fun spelled =>
    ((Text.cut (· == '.') (composed spelled.flatten)).mapM decoded?).filter fun labels =>
      labels.all isFit && (!labels.any hasRight || labels.all isDirected)

/-- A domain name in ASCII. -/
def toAscii? (name : List Char) : Option (List Char) := (labels? name).map fun ls => Host.joined '.' (ls.map Punycode.encode)

end WeatherRelay.Net.Domain
