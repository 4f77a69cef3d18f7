import WeatherRelay.Calendar
import WeatherRelay.Scalar
import WeatherRelay.Word

/-!
# Windows and slots

A window sums the rain of one calendar period; a slot holds the rain of one minute of the hour or one hour of the day,
together with the minute or hour that it was written in.
-/

namespace WeatherRelay.Rainfall

variable {α : Type}

/-- The rain of a period, and when rain was last added. -/
structure Window (α : Type) where
  sum : α
  last : Option Moment := none

namespace Window

variable [Scalar α]

/-- A window without rain. -/
def empty : Window α := { sum := 0 }

/-- Whether the last rain fell in the same period as a moment. -/
def covers (w : Window α) (p : Period) (now : Moment) : Bool := w.last.any (p.same · now)

/-- Adds rain; the first rain of another period begins the sum anew. -/
def add (w : Window α) (p : Period) (amount : α) (now : Moment) : Window α :=
  ⟨if w.covers p now then w.sum + amount else amount, some now⟩

/-- The sum as it is at a moment: nothing once the period is over. -/
def current (w : Window α) (p : Period) (now : Moment) : α := if w.covers p now then w.sum else 0

/-- The window of a saved sum: empty if the period of the saving is over. -/
def restored (p : Period) (sum : α) (saved now : Moment) : Window α :=
  if p.same saved now then ⟨sum, some saved⟩ else empty

end Window

/-- One value for each of the five periods. -/
structure PerPeriod (β : Type) where
  minute : β
  hour : β
  day : β
  month : β
  year : β
deriving DecidableEq

namespace PerPeriod

variable {β γ : Type}

/-- The value of a period. -/
def get (x : PerPeriod β) : Period → β
  | .minute => x.minute
  | .hour => x.hour
  | .day => x.day
  | .month => x.month
  | .year => x.year

/-- The values that a function of the period gives. -/
def of (f : Period → β) : PerPeriod β := ⟨f .minute, f .hour, f .day, f .month, f .year⟩

@[simp] theorem get_of (f : Period → β) (p : Period) : (of f).get p = f p := by cases p <;> rfl

end PerPeriod

/-- The rain of a minute or an hour; `stamp` counts minutes or hours since the beginning of 1970. -/
structure Slot (α : Type) where
  amount : α
  stamp : Option Int := none
deriving DecidableEq

namespace Slot

variable [Scalar α]

/-- A slot never written. -/
def empty : Slot α := { amount := 0 }

/-- Adds rain; rain of another minute or hour takes the slot over. -/
def add (s : Slot α) (amount : α) (stamp : Int) : Slot α :=
  ⟨if s.stamp = some stamp then s.amount + amount else amount, some stamp⟩

/-- Whether the slot was written in the `span` minutes or hours that end with `this`. A stamp is any number of 64 bits,
as a saved record may hold it, and so is the time since. -/
def within (span this : Int) (s : Slot α) : Bool := s.stamp.any fun m => m ≤ this ∧ Word.wrap64 (this - m) < span

/-- The rain of the slots written within a span, added in slot order. -/
def total (span this : Int) (slots : List (Slot α)) : α :=
  Scalar.sum ((slots.filter (within span this)).map (·.amount))

end Slot

end WeatherRelay.Rainfall
