import WeatherRelay.Log
import WeatherRelay.Text.Visible
import WeatherRelay.Word

/-!
# Deliveries

One observation on its way to one destination, and the ways in which that ends. Every delivery is a task of its own: a
panic of the update is caught in it and logged, so that whoever collects the task is told that it has returned.
-/

namespace WeatherRelay

/-- A delivery: the cycle it belongs to, the place of its destination in the configuration and its name,
and what is delivered. -/
structure Delivery (α : Type) where
  cycle : Nat
  place : Nat
  name : String
  load : α

/-- How a delivery ends by itself; a panic may carry a message. -/
inductive Ending (ε : Type) where
  | done
  | failed (error : ε)
  | panicked (message : Option String)
deriving DecidableEq, Repr

/-- What becomes of a delivery if nothing stops it: the milliseconds until it ends, if it does, and how. -/
structure Fate (ε : Type) where
  left : Option Nat
  ending : Ending ε
deriving DecidableEq, Repr

namespace Fate

variable {ε : Type}

/-- It ends at once. -/
def now (ending : Ending ε) : Fate ε := ⟨some 0, ending⟩

/-- It never ends by itself. -/
def never : Fate ε := ⟨none, .done⟩

end Fate

/-- How a delivery without a panic ends. -/
def Ending.ofResult {ε : Type} : Except ε Unit → Ending ε
  | .ok () => .done
  | .error e => .failed e

/-- Catches a panic. -/
def Unwinding.caught {α : Type} (x : Unwinding α) : Unwinding (Except (Option String) α) := .ok x

/-- What an update comes to that ends in a given way. -/
def Ending.outcome {ε : Type} : Ending ε → Unwinding (Except ε Unit)
  | .done => .ok (.ok ())
  | .failed e => .ok (.error e)
  | .panicked message => .error message

/-- The task of a delivery whose update comes to something: a panic is caught, and what is wrong is logged. -/
def Delivery.task {α ε : Type} [ToString ε] (d : Delivery α) (update : Unwinding (Except ε Unit)) :
    Unwinding (List LogLine) := do
  match ← Unwinding.caught update with
  | .ok (.ok ()) => return []
  | .ok (.error e) => return [.warn s!"[Dispatch] cycle {d.cycle}: {d.name} failed: {e}"]
  | .error message =>
    let told := message.getD "unknown panic"
    return [.error s!"[Dispatch] cycle {d.cycle}: {d.name} panicked: {told}"]

/-- What whoever collects a task is told of it. -/
inductive Joined where
  | returned
  | panicked (message : Option String)
  | cancelled
deriving DecidableEq, Repr

namespace Joined

/-- What is told of a task that was not cancelled. -/
def ofTask {β : Type} : Unwinding β → Joined
  | .ok _ => .returned
  | .error message => .panicked message

/-- The line about a task that is collected: there is one for a panic that left its task. -/
def lines : Joined → List LogLine
  | .panicked message =>
    let told := (message.map fun m => " with message " ++ Text.quoted m).getD ""
    [.error s!"[Dispatch] delivery task panicked: task panicked{told}"]
  | _ => []

end Joined

/-- The line that the end of a delivery leaves in the log; a delivery that is done leaves none. -/
def Ending.lines {α ε : Type} [ToString ε] (d : Delivery α) (e : Ending ε) : List LogLine :=
  match d.task e.outcome with
  | .ok lines => lines
  | .error _ => []

/-- What is told of the task of a delivery that has ended. -/
def Ending.joined {α ε : Type} [ToString ε] (d : Delivery α) (e : Ending ε) : Joined := .ofTask (d.task e.outcome)

/-- Whether two deliveries are one: a cycle has at most one for a place. -/
def Delivery.isSame {α : Type} (d e : Delivery α) : Bool := d.cycle == e.cycle && d.place == e.place

end WeatherRelay
