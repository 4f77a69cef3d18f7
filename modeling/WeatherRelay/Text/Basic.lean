/-!
# Characters, cuts and white space

Bytes read as UTF-8, where some of them may make no character; texts cut where characters of a class stand; and the
characters that Unicode counts as white space, which are more than the blanks of ASCII.
-/

namespace WeatherRelay.Text

/-- The characters found so far and those from a byte on; a byte that begins none is passed over alone. -/
def decodeUtf8From (bytes : ByteArray) (i : Nat) (found : Array (Option Char)) : Array (Option Char) :=
  if i < bytes.size then
    match bytes.utf8DecodeChar? i with
    | some c => decodeUtf8From bytes (i + max 1 c.utf8Size) (found.push (some c))
    | none => decodeUtf8From bytes (i + 1) (found.push none)
  else found
termination_by bytes.size - i

/-- The characters that bytes make. -/
def decodeUtf8 (bytes : ByteArray) : List (Option Char) := (decodeUtf8From bytes 0 #[]).toList

/-- A list cut at every element of a class. -/
def cut (p : Char → Bool) : List Char → List (List Char)
  | [] => [[]]
  | c :: rest =>
    if p c then [] :: cut p rest
    else match cut p rest with
      | [] => [[c]]
      | first :: more => (c :: first) :: more

/-- The part before a character and, if it is there, the part after it. -/
def splitAtFirst (c : Char) (cs : List Char) : List Char × Option (List Char) :=
  match cs.dropWhile (· != c) with
  | [] => (cs, none)
  | _ :: rest => (cs.takeWhile (· != c), some rest)

/-- The characters with the property White_Space. -/
def isBlank (c : Char) : Bool :=
  let n := c.toNat
  (0x9 ≤ n && n ≤ 0xD) || n == 0x20 || n == 0x85 || n == 0xA0 || n == 0x1680 || (0x2000 ≤ n && n ≤ 0x200A) || n == 0x2028 ||
    n == 0x2029 || n == 0x202F || n == 0x205F || n == 0x3000

/-- The characters without the white space at both ends. -/
def trimmed (cs : List Char) : List Char := ((cs.dropWhile isBlank).reverse.dropWhile isBlank).reverse

/-- A text without the white space at both ends. -/
def trim (s : String) : String := String.ofList (trimmed s.toList)

/-- Whether a text is nothing but white space. -/
def isAllBlank (s : String) : Bool := s.toList.all isBlank

end WeatherRelay.Text
