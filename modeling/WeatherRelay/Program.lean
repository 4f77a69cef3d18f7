import WeatherRelay.CommandLine
import WeatherRelay.Service

/-!
# A call of the program

From the arguments to the exit status: the options are read, the configuration is loaded, and the service runs until it is
interrupted.
-/

namespace WeatherRelay

/-- How a call ends: its exit status, the lines for the standard output, and the lines after the log. -/
structure Ended where
  status : Nat
  output : List String := []
  report : List String := []
deriving DecidableEq, Repr

/-- The error with what caused it, outermost first. -/
def ConfigError.chain (e : ConfigError) : List String :=
  e.message :: match e with
    | .unreadable _ cause => [cause.text]
    | .malformed => ["the text holds no configuration"]
    | _ => []

/-- The error with what caused it, outermost first. -/
def ServiceError.chain (e : ServiceError) : List String :=
  e.message :: match e with
    | .config c => c.chain
    | .bind _ => [notLocal]

namespace Program

/-- The causes of an error, numbered if there are several. -/
def causeLines : List String → List String
  | [] => []
  | [cause] => ["", "Caused by:", "    " ++ cause]
  | causes => "" :: "Caused by:" :: causes.zipIdx.map fun (cause, n) => s!"    {n}: {cause}"

/-- The report of an error with its causes. -/
def failed (message : String) (causes : List String) : Ended :=
  { status := 1, report := ("Error: " ++ message) :: causeLines causes }

/-- A call that ends before it begins: help is no failure. -/
def early (e : CommandLine.Early) : Ended :=
  match e with
  | .help => { status := 0, output := e.lines }
  | e => { status := 1, report := e.lines ++ [s!"Run {CommandLine.program} --help for more information."] }

/-- The version of the program. -/
def version : String := "0.1.0"

variable {P S ε : Type}

/-- Loads the configuration that the options name. -/
def load (o : CommandLine.Options) : Action S (Except Ended Config) := do
  Scene.note [.info s!"Starting {CommandLine.program} v{version}", .info s!"Loading config from: {o.config}"]
  match Config.load (← get).files o.config with
  | .error e => return .error (failed s!"failed to load {o.config}" e.chain)
  | .ok c => return .ok c

/-- Begins to listen. -/
def listen [ToString ε] (b : Behavior P S ε) (create : ServiceKind → P) (isLocal : Net.Host → Bool) (c : Config) :
    Action S (Except Ended (Service P ε)) := do
  match Service.address isLocal c with
  | .error e => return .error (failed e.message (e.chain.drop 1))
  | .ok a =>
    Scene.note [.info s!"[Ingest] listening on {a.text}"]
    return .ok (← Service.start b create c)

/-- Ends the service after an interrupt, if it comes to that. -/
def interrupt [ToString ε] (b : Behavior P S ε) (s : Service P ε) : Action S (Option Ended) := do
  Scene.note [.info "Shutdown signal received"]
  if ← s.stop b then
    Scene.note [.info s!"{CommandLine.program} stopped"]
    return some { status := 0 }
  else return none

/-- A call in which events happen before the interrupt. -/
def call [ToString ε] (b : Behavior P S ε) (create : ServiceKind → P) (isLocal : Net.Host → Bool) (arguments : List String)
    (events : List Event) : Action S (Option Ended) := do
  match CommandLine.parse arguments with
  | .error e => return some (early e)
  | .ok options =>
    match ← load options with
    | .error ended => return some ended
    | .ok c =>
      match ← listen b create isLocal c with
      | .error ended => return some ended
      | .ok s =>
        let s ← s.steps b events
        interrupt b s

end Program

end WeatherRelay
