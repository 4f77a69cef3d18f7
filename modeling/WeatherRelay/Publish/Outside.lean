import WeatherRelay.Net.Address
import WeatherRelay.Net.Url
import WeatherRelay.Publish.Database
import WeatherRelay.Publish.Error
import WeatherRelay.Publish.Upload
import WeatherRelay.Publish.WeatherTable
import WeatherRelay.Scene

/-!
# What publishers reach

The network, the databases, and a trace of what was done there.
-/

namespace WeatherRelay

/-- What becomes of an attempt to connect. -/
inductive Reach where
  | accepted
  | refused
  | silent
  | unreachable
  | unresolved
deriving DecidableEq, Repr

/-- The network: what becomes of an attempt to connect to a port of a host, whether secure connections come about once a
host is reached, and the status that web servers answer with. -/
structure Network where
  reach : String → Nat → Reach
  isSecure : Bool := false
  status : Nat := 200

/-- Something done outside. -/
inductive Effect where
  | dialed (host : String) (port : Nat)
  | fetched (url agent : String)
  | sent (text : String)
  | joined (user password : Option String)
  | published (message : Mqtt.Message)
  | left
  | shown (screen : String)
deriving DecidableEq, Repr

/-- The network, the tables of databases by their paths, and what was done so far. -/
structure Outside where
  network : Network
  tables : List (List String × List WeatherTable.Row) := []
  effects : List Effect := []

namespace Outside

/-- Does something. -/
def act (e : Effect) : Action Outside Unit := Scene.change fun o => { o with effects := o.effects ++ [e] }

/-- Tries to connect. A name that does not resolve is not dialed. -/
def dial (host : String) (port : Nat) : Action Outside Reach := do
  let reach := (← get).outside.network.reach host port
  if reach ≠ .unresolved then act (.dialed host port)
  return reach

/-- Sends a report to a web address; a status that tells of no success is an error of the service. -/
def fetch (service : String) (u : Net.Url) : Action Outside (Except PublishError Unit) := do
  if !u.isSendable then return .error (.http (some u.text))
  let (host, port) := u.endpoint
  let reach ← dial host port
  let network := (← get).outside.network
  if reach ≠ .accepted ∨ (u.secure ∧ !network.isSecure) then return .error (.http (some u.text))
  act (.fetched u.text Upload.agent)
  if 200 ≤ network.status ∧ network.status < 300 then return .ok ()
  else return .error (.status service network.status)

/-- The host and port of an address as text. -/
def endpoint (address : String) : Except LinkError (String × Nat) :=
  match Net.Address.of? address with
  | some a => .ok (String.ofList a.host.text, a.port)
  | none =>
    match Mqtt.splitLast? address.toList with
    | none => .error .badAddress
    | some (host, port) =>
      match Mqtt.port? port with
      | none => .error .badPort
      | some n => if host.contains '\x00' then .error .nulInName else .ok (String.ofList host, n)

/-- Why a connection to an address did not come about. -/
def linkError? (address : String) : Reach → Option LinkError
  | .accepted => none
  | .refused => some .refused
  | .silent => some (.timedOut address)
  | .unreachable => some .unreachable
  | .unresolved => some .unresolved

/-- Connects to an address and sends a text. -/
def send (address text : String) : Action Outside (Except PublishError Unit) := do
  match endpoint address with
  | .error e => return .error (.link e)
  | .ok (host, port) =>
    match linkError? address (← dial host port) with
    | some e => return .error (.link e)
    | none =>
      act (.sent text)
      return .ok ()

/-- The rows of the table in the database at a path, if one is there. -/
def rows? (o : Outside) (path : List String) : Option (List WeatherTable.Row) := o.tables.lookup path

/-- Gives the table in the database at a path its rows. -/
def setRows (path : List String) (rows : List WeatherTable.Row) : Action Outside Unit :=
  Scene.change fun o => { o with tables := (path, rows) :: o.tables.filter (·.1 != path) }

/-- Opens the file at a path as a database and makes the table where there is none. A file that holds something else is
no database; without a name of room for the file beside it, nothing can be written. -/
def openFile (r : Database.Request) (path : List String) : Action Outside (Except PublishError Database) := do
  let scene ← get
  let name := path.getLast?.getD ""
  match scene.files.openFile (Files.fullText path) with
  | .error _ => return .error .database
  | .ok (_, content) =>
    if content.isNone ∧ r.mode = .create then
      set { scene with files := scene.files.put path (.file .empty) }
    if content.isNone ∧ r.mode ≠ .create then return .error .database
    else if r.isFixed then return .error .database
    else if (scene.outside.rows? path).isSome then return .ok { path := some path, isWritable := r.mode ≠ .readOnly }
    else if r.mode = .readOnly ∨ content.any (!·.isEmpty) then return .error .database
    else if Files.longestName < name.utf8ByteSize + Database.beside then return .error .database
    else
      setRows path []
      return .ok { path := some path }

/-- Opens the database of a name. -/
def openTable (name : String) : Action Outside (Except PublishError Database) := do
  match Database.request? name with
  | none => return .error .database
  | some r =>
    if r.isPrivate then return .ok {}
    match Database.fullPath? (← get).files r.path with
    | none => return .error .database
    | some path => openFile r path

/-- Adds a row to the table in a database. -/
def insertRow (d : Database) (station : String) (o : Snapshot) : Action Outside (Except PublishError Unit) := do
  let outside := (← get).outside
  match WeatherTable.insert ((d.path.bind outside.rows?).getD []) station o with
  | .error column => return .error (.emptyColumn WeatherTable.name column)
  | .ok rows =>
    if !d.isWritable then return .error .database
    d.path.forM fun path => setRows path rows
    return .ok ()

/-- Adds text to the end of a file. -/
def appendText (path text : String) : Action Outside (Except PublishError Unit) := do
  let scene ← get
  match scene.files.append path text.toUTF8 with
  | .error e => return .error (.file e)
  | .ok files =>
    set { scene with files }
    return .ok ()

end Outside

end WeatherRelay
