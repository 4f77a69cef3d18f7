import WeatherRelay.Net.Address
import WeatherRelay.Net.Domain.Name
import WeatherRelay.Text.Basic
import WeatherRelay.Text.Percent

/-!
# Addresses of the web

Reading `http` and `https` addresses as browsers do, and writing them in their one normal form: the host in small
letters, the port only where it is not the usual one, the rest percent-encoded. A user name in the address is left out.
-/

namespace WeatherRelay.Net

/-- An address of the web. -/
structure Url where
  secure : Bool
  host : List Char
  port : Option Nat
  path : List (List Char)
  query : Option (List Char)
  fragment : Option (List Char)
deriving DecidableEq, Repr

namespace Url

/-- Whether a character separates the parts of a path. -/
def isSlash (c : Char) : Bool := c == '/' || c == '\\'

/-- The characters that are escaped in a fragment. -/
def inFragment (c : Char) : Bool := c ∈ [' ', '"', '<', '>', '\x60']

/-- The characters that are escaped in a path. -/
def inPath (c : Char) : Bool := inFragment c || c ∈ ['#', '?', '\x7b', '\x7d']

/-- The characters that are escaped in a query. -/
def inQuery (c : Char) : Bool := c ∈ [' ', '"', '#', '<', '>', '\'']

/-- The characters that no host may hold. -/
def isForbidden (c : Char) : Bool :=
  c.toNat ≤ 0x20 || c.toNat == 0x7F || c ∈ ['#', '/', ':', '<', '>', '?', '@', '[', '\\', ']', '^', '|', '%']

/-- A part of an address of four octets: decimal, octal after a zero, or hexadecimal after `0x`. -/
def octetPart? (cs : List Char) : Option Nat :=
  match cs with
  | [] => none
  | '0' :: x :: rest =>
    if x = 'x' ∨ x = 'X' then (if rest.isEmpty then some 0 else Decimal.natural? 16 rest) else Decimal.natural? 8 (x :: rest)
  | cs => Decimal.natural? 10 cs

/-- The parts of a host, without an empty one at the end. -/
def hostParts (host : List Char) : List (List Char) :=
  let parts := Text.cut (· == '.') host
  if 1 < parts.length && parts.getLast? == some [] then parts.dropLast else parts

/-- Whether a host has to be an address of four octets, which its last part tells. -/
def endsInNumber (host : List Char) : Bool :=
  match (hostParts host).getLast? with
  | none => false
  | some last => (!last.isEmpty && last.all Char.isDigit) ||
      (last.take 2 ∈ [['0', 'x'], ['0', 'X']] && (octetPart? last).isSome)

/-- The number of an address of four octets: the last part fills what the others leave. -/
def octetNumber? (host : List Char) : Option Nat :=
  let parts := hostParts host
  if 4 < parts.length then none
  else (parts.mapM octetPart?).bind fun ns =>
    let front := ns.dropLast
    let last := ns.getLast?.getD 0
    if front.any (255 < ·) || Nat.pow 256 (5 - ns.length) ≤ last then none
    else some (front.zipIdx.foldl (fun total (n, i) => total + n * Nat.pow 256 (3 - i)) last)

/-- The text of four octets. -/
def octetText (n : Nat) : List Char :=
  Host.joined '.' ([n / 16777216 % 256, n / 65536 % 256, n / 256 % 256, n % 256].map Decimal.digits)

/-- A host: eight groups in brackets, four octets, or a domain name, whose escapes are decoded and
which is written in ASCII. -/
def host? (cs : List Char) : Option (List Char) :=
  match cs with
  | '[' :: rest =>
    if rest.getLast? != some ']' then none
    else match Address.v6Groups? rest.dropLast with
      | some (groups, []) => some ('[' :: Host.compressed groups ++ [']'])
      | _ => none
  | cs =>
    let bytes := Text.percentDecode (String.ofList cs).toUTF8.toList
    (String.fromUTF8? ⟨bytes.toArray⟩).bind fun name => (Domain.toAscii? name.toList).bind fun ascii =>
      if ascii.isEmpty || ascii.any isForbidden then none
      else if endsInNumber ascii then (octetNumber? ascii).map octetText
      else some ascii

/-- The port of a secure or plain address. -/
def usualPort (secure : Bool) : Nat := if secure then 443 else 80

/-- The port after the host; the usual one need not be told. -/
def port? (secure : Bool) (cs : List Char) : Option (Option Nat) :=
  if cs.isEmpty then some none
  else (Decimal.bounded? 10 65535 cs).map fun n => if n = usualPort secure then none else some n

/-- The host and what follows its last colon, outside brackets. -/
def splitPort (cs : List Char) : List Char × List Char :=
  let tail := cs.reverse.takeWhile fun c => c != ':' && c != ']'
  let before := cs.reverse.dropWhile fun c => c != ':' && c != ']'
  match before with
  | ':' :: host => (host.reverse, tail.reverse)
  | _ => (cs, [])

/-- Whether a part of a path stays where it is. -/
def isDot (s : List Char) : Bool := (String.ofList s).toLower ∈ [".", "%2e"]

/-- Whether a part of a path goes one step back. -/
def isDoubleDot (s : List Char) : Bool := (String.ofList s).toLower ∈ ["..", ".%2e", "%2e.", "%2e%2e"]

/-- The parts of a path with the steps back taken. -/
def segments : List (List Char) → List (List Char) → List (List Char)
  | done, [] => done
  | done, s :: rest =>
    if isDoubleDot s then segments (done.dropLast ++ if rest.isEmpty then [[]] else []) rest
    else if isDot s then segments (done ++ if rest.isEmpty then [[]] else []) rest
    else segments (done ++ [Text.percentEncode inPath s]) rest

/-- What follows the scheme. -/
def rest? (secure : Bool) (cs : List Char) : Option Url :=
  let cs := cs.dropWhile isSlash
  let authority := cs.takeWhile fun c => !(isSlash c || c == '?' || c == '#')
  let rest := cs.drop authority.length
  let (rest, fragment) := Text.splitAtFirst '#' rest
  let (path, query) := Text.splitAtFirst '?' rest
  let place := (authority.reverse.takeWhile (· != '@')).reverse
  let (host, port) := splitPort place
  (host? host).bind fun host => (port? secure port).map fun port =>
    { secure, host, port
      path := match path with
        | [] => [[]]
        | _ :: p => segments [] (Text.cut isSlash p)
      query := query.map (Text.percentEncode inQuery)
      fragment := fragment.map (Text.percentEncode inFragment) }

/-- The address that a text is. Tabs and ends of lines in it are passed over. -/
def of? (s : String) : Option Url :=
  let cs := s.toList.filter fun c => !(c == '\t' || c == '\n' || c == '\r')
  if cs.take 7 == "http://".toList then rest? false (cs.drop 7)
  else if cs.take 8 == "https://".toList then rest? true (cs.drop 8)
  else none

/-- Names and values as a form writes them. -/
def form (pairs : List (String × String)) : List Char :=
  Host.joined '&' (pairs.map fun p => Text.formEncode p.1 ++ '=' :: Text.formEncode p.2)

/-- The address with names and values added to its query. -/
def withForm (u : Url) (pairs : List (String × String)) : Url :=
  { u with query := some ((u.query.map (· ++ ['&'])).getD [] ++ form pairs) }

/-- The address as text. -/
def text (u : Url) : String :=
  String.ofList ((if u.secure then "https://" else "http://").toList ++ u.host ++
    (u.port.map fun n => ':' :: Decimal.digits n).getD [] ++ u.path.flatMap ('/' :: ·) ++
    (u.query.map ('?' :: ·)).getD [] ++ (u.fragment.map ('#' :: ·)).getD [])

/-- The bytes that the text of an address may have in a request. -/
def longestRequest : Nat := 65534

/-- Whether a request can be made for an address: some signs that a host may have can stand in no request. -/
def isSendable (u : Url) : Bool :=
  !(u.host.any fun c => c ∈ ['"', '\x60', '\x7b', '\x7d']) && u.text.utf8ByteSize ≤ longestRequest

/-- The host and port to connect to. -/
def endpoint (u : Url) : String × Nat := (String.ofList u.host, u.port.getD (usualPort u.secure))

end Url

end WeatherRelay.Net
