import WeatherRelay.Files
import WeatherRelay.Text.Basic
import WeatherRelay.Text.Percent

/-!
# The names of databases

A database is named by a path or by a `file:` address with a path and options. It is kept in the file at that path, or
in no file and then only for the publisher that opened it.
-/

namespace WeatherRelay

/-- A database that is open: the path of its file, if it is kept in one, and whether rows may be added. -/
structure Database where
  path : Option (List String) := none
  isWritable : Bool := true
deriving DecidableEq, Repr

namespace Database

/-- What is asked of the file of a database. -/
inductive Mode where
  | readOnly
  | existing
  | create
  | memory
deriving DecidableEq, Repr

/-- What the name of a database says. -/
structure Request where
  path : String
  mode : Mode := .create
  isFixed : Bool := false
deriving DecidableEq, Repr

/-- The modes by their words in an address. -/
def Mode.ofWord? : String → Option Mode
  | "ro" => some .readOnly
  | "rw" => some .existing
  | "rwc" => some .create
  | "memory" => some .memory
  | _ => none

/-- How much a mode allows: after one mode was given, no other may ask for more. -/
def Mode.rank : Mode → Nat
  | .readOnly => 1
  | .existing => 2
  | .create => 3
  | .memory => 4

/-- The systems that hold files; the last one holds them in memory. -/
def systems : List String := ["unix", "unix-none", "unix-dotfile", "unix-excl", "memdb"]

/-- Whether an option is switched on: by a number other than zero, or by a word. -/
def isOn (value : String) : Bool :=
  match value.toList.takeWhile Char.isDigit with
  | [] => value.toLower ∈ ["on", "yes", "true"]
  | digits => digits.any (· ≠ '0')

/-- A part of an address with its escapes decoded, up to the first zero byte. -/
def decoded (part : List Char) : String :=
  let bytes := (Text.percentDecode (String.ofList part).toUTF8.toList).takeWhile (· ≠ 0)
  (String.fromUTF8? ⟨bytes.toArray⟩).getD (String.ofList part)

/-- What an option of an address asks for; options of other names are passed over. -/
def Request.option? (r : Request) (name value : String) : Option Request :=
  match name with
  | "mode" => (Mode.ofWord? value).bind fun m => if m ≠ .memory ∧ r.mode.rank < m.rank then none else some { r with mode := m }
  | "cache" => if value ∈ ["shared", "private"] then some r else none
  | "vfs" => if value ∉ systems then none else if value = "memdb" then some { r with mode := .memory } else some r
  | "immutable" => some { r with isFixed := isOn value }
  | _ => some r

/-- What follows `file:` without the host, which can only be this one. -/
def localPart? : List Char → Option (List Char)
  | '/' :: '/' :: rest =>
    if String.ofList (rest.takeWhile (· ≠ '/')) ∈ ["", "localhost"] then some (rest.dropWhile (· ≠ '/')) else none
  | rest => some rest

/-- What an address says after `file:`. -/
def ofAddress? (cs : List Char) : Option Request :=
  (localPart? cs).bind fun rest =>
    let (path, options) := Text.splitAtFirst '?' (Text.splitAtFirst '#' rest).1
    (Text.cut (· == '&') (options.getD [])).foldlM (fun r o =>
      let (name, value) := Text.splitAtFirst '=' o
      r.option? (decoded name) (decoded (value.getD []))) ⟨decoded path, .create, false⟩

/-- What a name says; no name holds a zero byte. -/
def request? (name : String) : Option Request :=
  if name.toList.contains '\x00' then none
  else if name.startsWith "file:" then ofAddress? (name.toList.drop 5)
  else some ⟨name, .create, false⟩

/-- The name of a database that is kept in no file. -/
def inMemory : String := ":memory:"

/-- Whether a database is kept in no file. -/
def Request.isPrivate (r : Request) : Bool := r.mode = .memory || r.path = inMemory || r.path = ""

/-- The bytes that the path of a database may have. -/
def longestPath : Nat := 504

/-- The bytes at the end of a name that the file beside the database has to have room for. -/
def beside : Nat := "-journal".utf8ByteSize

/-- The path of the file without steps that stay or go back. Every directory that it passes has to be
one, or to be missing. -/
def fullPath? (fs : Files) (text : String) : Option (List String) :=
  ((Files.steps text).foldlM (fun path step =>
    if step = "." then some path
    else if step = ".." then some path.dropLast
    else
      match fs.lookUp (Files.fullText (path ++ [step])) with
      | .ok _ | .error .notFound => some (path ++ [step])
      | .error _ => none) (fs.origin text)).bind fun path =>
    if path = [] ∨ longestPath < (Files.fullText path).utf8ByteSize then none else some path

end Database

end WeatherRelay
