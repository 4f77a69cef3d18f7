import WeatherRelay.Rainfall.Accumulator

/-!
# The saved record

What is saved of an accumulator, and the accumulator that a saved record makes: a window is kept while its period lasts,
slots are kept when there are as many as there should be, and the rolling totals are summed anew.
-/

namespace WeatherRelay.Rainfall

/-- The minute in which a record was saved, as the record tells it. -/
structure SavedAt where
  year : Int
  month : Nat
  day : Nat
  hour : Nat
  minute : Nat
deriving DecidableEq, Repr

namespace SavedAt

/-- The minute of a moment. -/
def ofMoment (t : Moment) : SavedAt := ⟨t.date.year, t.date.month, t.date.day, t.hour, t.minute⟩

/-- The moment at the beginning of the minute, if the calendar has it. -/
def moment? (s : SavedAt) : Option Moment := Moment.of? s.year s.month s.day s.hour s.minute 0

end SavedAt

/-- What is saved. -/
structure Record (α : Type) where
  time : SavedAt
  sums : PerPeriod α
  last60 : α
  last24 : α
  minuteSlots : List (Slot α)
  hourSlots : List (Slot α)
deriving DecidableEq

/-- A saved sum that is dropped because its period is over. -/
structure Discarded (α : Type) where
  period : Period
  sum : α

namespace Accumulator

variable {α : Type} [Scalar α]

/-- The record of an accumulator at a moment. -/
def record (a : Accumulator α) (now : Moment) : Record α where
  time := .ofMoment now
  sums := .of fun p => (a.windows.get p).sum
  last60 := a.last60
  last24 := a.last24
  minuteSlots := a.minuteSlots.toList
  hourSlots := a.hourSlots.toList

/-- The slots of a record, when there are `n` of them; else the slots held before. -/
def takeSlots {n : Nat} (held : Vector (Slot α) n) (saved : List (Slot α)) : Vector (Slot α) n :=
  if h : saved.toArray.size = n then ⟨saved.toArray, h⟩ else held

/-- The accumulator after a record was restored at a moment; none when the record's time is no minute of the calendar. -/
def restore? (a : Accumulator α) (r : Record α) (now : Moment) : Option (Accumulator α) :=
  r.time.moment?.map fun saved =>
    let kept : Accumulator α :=
      { a with
        windows := .of fun p => .restored p (r.sums.get p) saved now
        minuteSlots := takeSlots a.minuteSlots r.minuteSlots
        hourSlots := takeSlots a.hourSlots r.hourSlots }
    kept.roll now

end Accumulator

/-- The sums of a record that are positive and whose period is over, shortest period first. -/
def Record.discarded {α : Type} [Scalar α] (r : Record α) (now : Moment) : List (Discarded α) :=
  match r.time.moment? with
  | none => []
  | some saved =>
    ([Period.minute, .hour, .day, .month, .year].filter fun p => !p.same saved now && decide (0 < r.sums.get p)).map
      fun p => ⟨p, r.sums.get p⟩

end WeatherRelay.Rainfall
