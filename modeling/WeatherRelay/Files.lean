import WeatherRelay.Text.Basic

/-!
# Files

A tree of directories and files as a value, and the few operations on it that the service uses. A step either happens as
a whole or leaves the tree as it was; a write that fails half way is told apart where that matters.
-/

namespace WeatherRelay

/-- Why a file cannot be used as wished. -/
inductive FileError where
  | notFound
  | busy
  | notDirectory
  | isDirectory
  | nameTooLong
  | nulInName
  | notText
deriving DecidableEq, Repr

/-- The wording of a system error. -/
def FileError.text : FileError → String
  | .notFound => "No such file or directory (os error 2)"
  | .busy => "Device or resource busy (os error 16)"
  | .notDirectory => "Not a directory (os error 20)"
  | .isDirectory => "Is a directory (os error 21)"
  | .nameTooLong => "File name too long (os error 36)"
  | .nulInName => "file name contained an unexpected NUL byte"
  | .notText => "stream did not contain valid UTF-8"

/-- What stands at a path. -/
inductive FileNode where
  | directory
  | file (content : ByteArray)

/-- The nodes below the root by their path, and the directory that relative paths start from. -/
structure Files where
  nodes : List (List String × FileNode) := []
  working : List String := []

/-- The last step of a path: to a name in the directory, or to the directory itself or the one above it. -/
inductive LastStep where
  | name (s : String)
  | back
  | stay
deriving DecidableEq, Repr

/-- Where a path leads: a directory that is there, the last step from it, and whether a slash follows that step. -/
structure FilePlace where
  directory : List String
  last : LastStep
  hasSlash : Bool := false
deriving DecidableEq, Repr

/-- The path of what a place is about. -/
def FilePlace.path (p : FilePlace) : List String :=
  match p.last with
  | .name s => p.directory ++ [s]
  | .back => p.directory.dropLast
  | .stay => p.directory

namespace Files

/-- What stands at a path; the root is a directory. -/
def node? (fs : Files) (path : List String) : Option FileNode :=
  if path = [] then some .directory else (fs.nodes.find? (·.1 == path)).map (·.2)

/-- Puts a node at a path. -/
def put (fs : Files) (path : List String) (n : FileNode) : Files :=
  { fs with nodes := (path, n) :: fs.nodes.filter (·.1 != path) }

/-- Takes the node at a path away. -/
def remove (fs : Files) (path : List String) : Files := { fs with nodes := fs.nodes.filter (·.1 != path) }

/-- The bytes that a name may have. -/
def longestName : Nat := 255

/-- The bytes that a path may have. -/
def longestPath : Nat := 4095

/-- The full text of a path. -/
def fullText (path : List String) : String := "/" ++ "/".intercalate path

/-- The steps of a path: the parts between slashes. -/
def steps (text : String) : List String := ((Text.cut (· == '/') text.toList).map String.ofList).filter (· ≠ "")

/-- The directory that a path starts from. -/
def origin (fs : Files) (text : String) : List String := if text.startsWith "/" then [] else fs.working

/-- A step from a directory to a directory. -/
def enter (fs : Files) (directory : List String) (step : String) : Except FileError (List String) :=
  if step = "." then .ok directory
  else if step = ".." then .ok directory.dropLast
  else if longestName < step.utf8ByteSize then .error .nameTooLong
  else
    match fs.node? (directory ++ [step]) with
    | none => .error .notFound
    | some (.file _) => .error .notDirectory
    | some .directory => .ok (directory ++ [step])

/-- The place that a text names, reached through directories step by step. -/
def place (fs : Files) (text : String) : Except FileError FilePlace :=
  if text.toList.contains '\x00' then .error .nulInName
  else if text = "" then .error .notFound
  else if longestPath < text.utf8ByteSize then .error .nameTooLong
  else
    let hasSlash := text.endsWith "/"
    match (steps text).getLast? with
    | none => .ok ⟨fs.origin text, .stay, hasSlash⟩
    | some last =>
      ((steps text).dropLast.foldlM fs.enter (fs.origin text)).map fun directory =>
        ⟨directory, if last = "." then .stay else if last = ".." then .back else .name last, hasSlash⟩

/-- What stands at a place, if anything does; the name has to be one that a directory can hold. -/
def nodeAt (fs : Files) (p : FilePlace) : Except FileError (Option FileNode) :=
  match p.last with
  | .name s => if longestName < s.utf8ByteSize then .error .nameTooLong else .ok (fs.node? p.path)
  | _ => .ok (some .directory)

/-- What a text names; a slash at its end asks for a directory. -/
def lookUp (fs : Files) (text : String) : Except FileError FileNode :=
  (fs.place text).bind fun p => (fs.nodeAt p).bind fun
    | none => .error .notFound
    | some (.file content) => if p.hasSlash then .error .notDirectory else .ok (.file content)
    | some .directory => .ok .directory

/-- Whether a text names something. -/
def exists? (fs : Files) (text : String) : Bool := (fs.lookUp text) matches .ok _

/-- The content of a file. -/
def read (fs : Files) (text : String) : Except FileError ByteArray :=
  (fs.lookUp text).bind fun
    | .directory => .error .isDirectory
    | .file content => .ok content

/-- The content of a file of text. -/
def readText (fs : Files) (text : String) : Except FileError String :=
  (fs.read text).bind fun content =>
    match String.fromUTF8? content with
    | none => .error .notText
    | some s => .ok s

/-- The path of a file that may be written, and what it holds if it is there. -/
def openFile (fs : Files) (text : String) : Except FileError (List String × Option ByteArray) :=
  (fs.place text).bind fun p =>
    if p.hasSlash then .error .isDirectory
    else (fs.nodeAt p).bind fun
      | some .directory => .error .isDirectory
      | some (.file content) => .ok (p.path, some content)
      | none => .ok (p.path, none)

/-- Replaces the content of a file, which is created where there is none. -/
def write (fs : Files) (text : String) (content : ByteArray) : Except FileError Files :=
  (fs.openFile text).map fun (path, _) => fs.put path (.file content)

/-- Adds to the end of a file, which is created where there is none. -/
def append (fs : Files) (text : String) (content : ByteArray) : Except FileError Files :=
  (fs.openFile text).map fun (path, old) => fs.put path (.file (old.getD .empty ++ content))

/-- Gives a file another path and replaces the file that stood there. Neither path may end in a step that stays or goes
back, nor, as no directory is moved, in a slash. -/
def rename (fs : Files) (source target : String) : Except FileError Files :=
  (fs.place source).bind fun src => (fs.place target).bind fun dst =>
    match src.last, dst.last with
    | .name _, .name _ =>
      (fs.nodeAt src).bind fun
        | none => .error .notFound
        | some .directory => .error .isDirectory
        | some n =>
          (fs.nodeAt dst).bind fun old =>
            if src.hasSlash ∨ dst.hasSlash then .error .notDirectory
            else if old matches some .directory then .error .isDirectory
            else .ok ((fs.remove src.path).put dst.path n)
    | _, _ => .error .busy

/-- Makes the directories that a path leads through where they are missing, as far as no file is in the way. -/
def makeDirectories (fs : Files) (text : String) : Files :=
  let go : Files × List String → String → Files × List String := fun (fs, here) step =>
    match fs.enter here step with
    | .ok next => (fs, next)
    | .error .notFound => (fs.put (here ++ [step]) .directory, here ++ [step])
    | .error _ => (fs, here)
  ((steps text).foldl go (fs, fs.origin text)).1

end Files

/-- The text before the last point of a name, where the point is not the first character. -/
def stemLength (name : List Char) : Nat :=
  let fromPoint := name.reverse.dropWhile (· ≠ '.')
  if fromPoint.length ≤ 1 then name.length else fromPoint.length - 1

/-- Characters in reverse without the slashes, and the steps that stay, that they begin with. -/
def dropStays : List Char → List Char
  | '/' :: rest => dropStays rest
  | '.' :: '/' :: rest => dropStays rest
  | rest => rest

/-- A path with another extension: what follows the last point of its last name is replaced; a path that
ends in no name stays. -/
def withExtension (path : String) (extension : String) : String :=
  let chars := (dropStays path.toList.reverse).reverse
  let name := (chars.reverse.takeWhile (· ≠ '/')).reverse
  if name = [] ∨ name = ['.'] ∨ name = ['.', '.'] then path
  else
    String.ofList (chars.take (chars.length - name.length) ++ name.take (stemLength name)) ++ "." ++ extension

end WeatherRelay
