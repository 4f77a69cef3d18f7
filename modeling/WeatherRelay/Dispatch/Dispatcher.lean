import WeatherRelay.Dispatch.Delivery

/-!
# The dispatcher

Every observation goes to every destination that is enabled. Deliveries run side by side and nothing waits for them, but
their number is bounded: what cannot be started is left out of its cycle. At the end the dispatcher waits for what still
runs, up to a grace period, and stops the rest.
-/

namespace WeatherRelay

/-- The most deliveries at once, the grace period in seconds, the cycles so far, the deliveries that run, and those that
have ended and are not yet collected, which still count, with what is told of their tasks. -/
structure Dispatcher (α : Type) where
  limit : Nat
  grace : Nat
  cycle : Nat := 0
  running : List (Delivery α) := []
  ended : List (Delivery α × Joined) := []

/-- A destination that takes part in a cycle: its place in the configuration and its name. -/
structure Target where
  place : Nat
  name : String
deriving DecidableEq, Repr

/-- A dispatcher after a call, with the deliveries that it started and what it logged. -/
structure Dispatched (α : Type) where
  dispatcher : Dispatcher α
  started : List (Delivery α) := []
  log : List LogLine := []

/-- A dispatcher to which the end of a delivery was told, with the delivery if it ran. -/
structure Settled (α : Type) where
  dispatcher : Dispatcher α
  ended : Option (Delivery α) := none

/-- A dispatcher that has waited: how long in milliseconds, what ended by itself, in the order of its ends, and what was
stopped; and what it logged before and after the ends. -/
structure Drained (α ε : Type) where
  dispatcher : Dispatcher α
  waited : Nat := 0
  ended : List (Delivery α × Fate ε) := []
  stopped : List (Delivery α) := []
  opening : List LogLine := []
  closing : List LogLine := []

/-- What a wait ends with: its length, what ended by itself, and what did not. -/
structure Wait (α ε : Type) where
  length : Nat
  ended : List (Delivery α × Fate ε)
  left : List (Delivery α × Fate ε)

/-- Waits for deliveries in the order in which they end, at most for a period. -/
def Wait.upTo {α ε : Type} (period elapsed : Nat) : List (Delivery α × Fate ε) → Wait α ε
  | [] => ⟨elapsed, [], []⟩
  | x :: rest =>
    match x.2.left with
    | none => ⟨period, [], x :: rest⟩
    | some t =>
      if t ≤ period then
        let w := Wait.upTo period t rest
        { w with ended := x :: w.ended }
      else ⟨period, [], x :: rest⟩

/-- The line about deliveries that did not end in time. -/
def Wait.stopLines {α ε : Type} (w : Wait α ε) : List LogLine :=
  if w.left.isEmpty then [] else [.warn s!"[Dispatch] grace period over, aborting {w.left.length} deliveries"]

/-- Whether a fate comes no later than another. -/
def Fate.isSooner {ε : Type} (a b : Fate ε) : Bool :=
  match a.left, b.left with
  | some s, some t => s ≤ t
  | some _, none => true
  | none, some _ => false
  | none, none => true

namespace Dispatcher

variable {α ε : Type}

/-- A dispatcher for at least one delivery at once. -/
def ofLimit (limit grace : Nat) : Dispatcher α := { limit := max limit 1, grace }

/-- The deliveries that were started and not yet collected. -/
def inFlight (d : Dispatcher α) : Nat := d.running.length + d.ended.length

/-- Collects the deliveries that have ended. -/
def reap (d : Dispatcher α) : Dispatcher α := { d with ended := [] }

/-- The lines about the tasks that are collected then. -/
def reapLines (d : Dispatcher α) : List LogLine := d.ended.flatMap (·.2.lines)

/-- The delivery of a load to a target in the present cycle. -/
def delivery (d : Dispatcher α) (load : α) (t : Target) : Delivery α := ⟨d.cycle, t.place, t.name, load⟩

/-- The line about a target for which there is no room. -/
def refusal (d : Dispatcher α) (t : Target) : LogLine :=
  .error s!"[Dispatch] cycle {d.cycle}: cannot start {t.name}, {d.inFlight} deliveries still running"

/-- Starts a delivery for each target, as long as there is room. -/
def start (d : Dispatcher α) (load : α) : List Target → Dispatched α
  | [] => { dispatcher := d }
  | t :: rest =>
    if d.inFlight < d.limit then
      let x := d.delivery load t
      let r := start { d with running := d.running ++ [x] } load rest
      { r with started := x :: r.started }
    else
      let r := start d load rest
      { r with log := d.refusal t :: r.log }

/-- A cycle: what has ended is collected, then the load is started for each target. -/
def dispatch (d : Dispatcher α) (targets : List Target) (load : α) : Dispatched α :=
  let r := start { d.reap with cycle := d.cycle + 1 } load targets
  { r with log := d.reapLines ++ r.log }

/-- A delivery ends; it counts until it is collected. -/
def finish (d : Dispatcher α) (x : Delivery α) (joined : Joined := .returned) : Dispatcher α :=
  match d.running.find? (·.isSame x) with
  | none => d
  | some found => { d with running := d.running.eraseP (·.isSame x), ended := d.ended ++ [(found, joined)] }

/-- A delivery ends by itself, if it runs. -/
def settle [ToString ε] (d : Dispatcher α) (x : Delivery α) (ending : Ending ε) : Settled α :=
  match d.running.find? (·.isSame x) with
  | none => { dispatcher := d }
  | some y => { dispatcher := d.finish y (ending.joined y), ended := some y }

/-- Waits for all deliveries that run, up to the grace period, and stops the rest; does nothing when none runs. -/
def drain (d : Dispatcher α) (fate : Delivery α → Fate ε) : Drained α ε :=
  if d.running.isEmpty then { dispatcher := d.reap, opening := d.reapLines }
  else
    let order := (d.running.map fun x => (x, fate x)).mergeSort fun a b => a.2.isSooner b.2
    let w := Wait.upTo (d.grace * 1000) 0 order
    { dispatcher := { d.reap with running := [] }
      waited := w.length
      ended := w.ended
      stopped := w.left.map (·.1)
      opening := d.reapLines ++ [.info s!"[Dispatch] waiting up to {d.grace}s for {d.running.length} deliveries"]
      closing := w.stopLines ++ w.left.flatMap fun _ => Joined.cancelled.lines }

/-- The line at the beginning of a run. -/
def startedLine (targets : List Target) : LogLine :=
  .info s!"[Dispatch] started with {targets.length} enabled destination(s)"

/-- The line at the end of a run. -/
def stoppedLine (d : Dispatcher α) : LogLine := .info s!"[Dispatch] stopped after {d.cycle} cycle(s)"

end Dispatcher

/-- All that a drain logs, with the lines about the ends. -/
def Drained.log {α ε : Type} [ToString ε] (r : Drained α ε) : List LogLine :=
  r.opening ++ r.ended.flatMap (fun x => x.2.ending.lines x.1 ++ (x.2.ending.joined x.1).lines) ++ r.closing

end WeatherRelay
