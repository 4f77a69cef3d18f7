import WeatherRelay.Word

/-!
# Pressure history and its trend

The samples of the last three hours, in the order of their times, and whether the pressure rose or fell over them. Times
are seconds in 64 bits; where their difference does not fit, a release build goes on with the one that was wrapped
around, and a build with overflow checks panics.
-/

namespace WeatherRelay

/-- Which way the pressure has been going. -/
inductive Trend where
  | rising
  | falling
  | steady
deriving DecidableEq, Repr

/-- The word for a trend. -/
def Trend.text : Trend → String
  | .rising => "rising"
  | .falling => "falling"
  | .steady => "steady"

/-- The word's trend, where there is one. -/
def Trend.ofText? (s : String) : Option Trend := [Trend.rising, .falling, .steady].find? (·.text == s)

/-- A pressure in millibars, taken at a time in seconds since 1970. -/
structure PressureSample where
  epoch : Int64
  pressure : Float
deriving DecidableEq, Repr

/-- The samples held, oldest first. -/
structure PressureHistory where
  samples : List PressureSample := []

namespace PressureHistory

/-- The length of time over which the trend is taken, in seconds. -/
def window : Int64 := 10800

/-- The change in millibars beyond which the pressure is not steady. -/
def threshold : Float := 1.0

/-- The samples that stay beside a new one before any is dropped. One from before the newest shows a clock that was set
back: the history starts anew with it. -/
def carried (h : PressureHistory) (s : PressureSample) : List PressureSample :=
  match h.samples.getLast? with
  | some newest => if s.epoch < newest.epoch then [] else h.samples
  | none => []

/-- Drops samples, from the oldest on, as long as they are older than the window at a time. How the build takes a
difference of times is given. -/
def dropStale {m : Type → Type} [Monad m] (subtract : Int64 → Int64 → m Int64) (now : Int64) :
    List PressureSample → m (List PressureSample)
  | [] => return []
  | old :: rest => do
    let age ← subtract now old.epoch
    if window < age then dropStale subtract now rest else return old :: rest

/-- The history with one more sample, without those that are older than the window then. -/
def record (h : PressureHistory) (s : PressureSample) : PressureHistory :=
  ⟨Id.run (dropStale (fun a b => pure (a - b)) s.epoch (h.carried s ++ [s]))⟩

/-- The same in a build with overflow checks. -/
def recordChecked (h : PressureHistory) (s : PressureSample) : Unwinding PressureHistory := do
  return ⟨← dropStale Word.checkedSub s.epoch (h.carried s ++ [s])⟩

/-- The change of pressure from the oldest to the newest sample. -/
def delta (h : PressureHistory) : Float :=
  match h.samples.head?, h.samples.getLast? with
  | some first, some last => last.pressure - first.pressure
  | _, _ => 0.0

/-- The trend over the samples held. -/
def trend (h : PressureHistory) : Trend :=
  if threshold < h.delta then .rising else if h.delta < -threshold then .falling else .steady

end PressureHistory

end WeatherRelay
