import WeatherRelay.Rainfall.Window

/-!
# The rainfall accumulator

Every amount of rain is added to five calendar windows and to two slots; the slots of the last 60 minutes and of the
last 24 hours make the rolling totals. The amounts may be of any scalar type.
-/

namespace WeatherRelay.Rainfall

/-- The state of all sums. -/
structure Accumulator (α : Type) where
  windows : PerPeriod (Window α)
  minuteSlots : Vector (Slot α) 60
  hourSlots : Vector (Slot α) 24
  last60 : α
  last24 : α

/-- What all sums read. -/
structure Totals (α : Type) where
  windows : PerPeriod α
  last60 : α
  last24 : α

namespace Accumulator

variable {α : Type} [Scalar α]

/-- An accumulator without rain. -/
def empty : Accumulator α where
  windows := .of fun _ => .empty
  minuteSlots := .replicate 60 .empty
  hourSlots := .replicate 24 .empty
  last60 := 0
  last24 := 0

instance : Inhabited (Accumulator α) := ⟨empty⟩

/-- Sums the slots of the last 60 minutes and the last 24 hours anew. -/
def roll (a : Accumulator α) (now : Moment) : Accumulator α :=
  { a with
    last60 := Slot.total 60 now.minuteIndex a.minuteSlots.toList
    last24 := Slot.total 24 now.hourIndex a.hourSlots.toList }

/-- Adds rain to the slots of its minute and hour. -/
def addToSlots (a : Accumulator α) (amount : α) (now : Moment) : Accumulator α :=
  let minute : Fin 60 := ⟨now.minute, now.isTime.2.1⟩
  let hour : Fin 24 := ⟨now.hour, now.isTime.1⟩
  { a with
    minuteSlots := a.minuteSlots.set minute ((a.minuteSlots.get minute).add amount now.minuteIndex)
    hourSlots := a.hourSlots.set hour ((a.hourSlots.get hour).add amount now.hourIndex) }

/-- Adds rain that was measured at a moment. -/
def add (a : Accumulator α) (amount : α) (now : Moment) : Accumulator α :=
  let rolled := (a.addToSlots amount now).roll now
  { rolled with windows := .of fun p => (a.windows.get p).add p amount now }

/-- All sums as of the last rain. -/
def totals (a : Accumulator α) : Totals α := ⟨.of fun p => (a.windows.get p).sum, a.last60, a.last24⟩

/-- All sums as they are at a moment: a window whose period is over reads nothing. -/
def totalsAt (a : Accumulator α) (now : Moment) : Totals α :=
  ⟨.of fun p => (a.windows.get p).current p now, a.last60, a.last24⟩

end Accumulator

end WeatherRelay.Rainfall
