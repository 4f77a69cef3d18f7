import WeatherRelay.Proofs.Rainfall.Restart

/-!
# Restoring a record

A record is restored in place, one part of the accumulator after another (`restoring`). What can go wrong goes wrong
before the first part is changed: the record's time may be no minute of the calendar. So restoring either leaves the
accumulator alone or changes all of it, and each part keeps of the record what is still valid
(`restoring_keeps_what_is_valid`). A gauge that is opened has the empty accumulator, with the record of its file
restored in it if there is one (`openAt_eq_restored`).
-/

namespace WeatherRelay.Rainfall

/-! ## Saved times -/

/-- A saved time makes a moment exactly if the calendar has a moment in that minute. -/
theorem SavedAt.moment?_eq_none_iff (s : SavedAt) : s.moment? = none ↔ ¬∃ t, ofMoment t = s := by
  constructor
  · rintro h ⟨t, rfl⟩
    rw [moment?_ofMoment] at h
    cases h
  · intro h
    cases hs : s.moment? with
    | none => rfl
    | some t =>
      refine absurd ⟨t, ?_⟩ h
      unfold moment? Moment.of? at hs
      obtain ⟨date, hdate, htime⟩ := Option.bind_eq_some_iff.mp hs
      unfold Date.of? at hdate
      split at hdate
      · obtain rfl := Option.some.inj hdate
        split at htime
        · obtain rfl := Option.some.inj htime
          rfl
        · cases htime
      · cases hdate

/-! ## One part after another -/

section

variable {α : Type}

/-- A restored window reads its sum while the period of the saving lasts. -/
theorem Window.current_restored [Scalar α] (p : Period) (sum : α) (saved now : Moment) :
    (restored p sum saved now).current p now = if p.same saved now then sum else 0 := by
  by_cases h : p.same saved now = true
  · simp [restored, current, covers, h]
  · simp [restored, current, covers, empty, h]

/-- The values of the periods with another one for a period. -/
def PerPeriod.set {β : Type} (x : PerPeriod β) (p : Period) (value : β) : PerPeriod β :=
  .of fun q => if q = p then value else x.get q

namespace Accumulator

variable [Scalar α]

/-- Restores the window of a period. -/
def restoreWindow (a : Accumulator α) (r : Record α) (saved now : Moment) (p : Period) : Accumulator α :=
  { a with windows := a.windows.set p (.restored p (r.sums.get p) saved now) }

/-- Restores a record in place. The windows are restored from the minute's to the year's, then the slots of the minutes
and those of the hours, where there are as many as there should be, and then the rolling totals are summed. -/
def restoring (r : Record α) (now : Moment) : ExceptT SavedAt (StateM (Accumulator α)) Unit := do
  let some saved := r.time.moment? | throw r.time
  for p in [Period.minute, .hour, .day, .month, .year] do
    modify (·.restoreWindow r saved now p)
  if h : r.minuteSlots.toArray.size = 60 then
    modify fun a => { a with minuteSlots := ⟨r.minuteSlots.toArray, h⟩ }
  if h : r.hourSlots.toArray.size = 24 then
    modify fun a => { a with hourSlots := ⟨r.hourSlots.toArray, h⟩ }
  modify (·.roll now)

/-- Restoring in place comes to what restoring at once makes, or to the accumulator as it was. -/
theorem restoring_run (r : Record α) (now : Moment) (a : Accumulator α) :
    (restoring r now).run.run a =
      match a.restore? r now with
      | none => (.error r.time, a)
      | some b => (.ok (), b) := by
  unfold restoring restore?
  cases r.time.moment? with
  | none => rfl
  | some saved =>
    simp only [Option.map_some, takeSlots]
    split <;> split <;> rfl

omit [Scalar α] in
/-- Slots are taken exactly if there are as many as there should be. -/
theorem takeSlots_toList_eq {n : Nat} (held : Vector (Slot α) n) (saved : List (Slot α)) :
    (takeSlots held saved).toList = if saved.length = n then saved else held.toList := by
  unfold takeSlots
  by_cases h : saved.toArray.size = n
  · have hlength : saved.length = n := h
    simp [hlength, Vector.toList]
  · have hlength : ¬saved.length = n := h
    simp [hlength]

/-- Restoring fails exactly if the record's time is no minute of the calendar, and then nothing was changed. -/
theorem restoring_fails_iff (r : Record α) (now : Moment) (a : Accumulator α) :
    ((restoring r now).run.run a).1 = .error r.time ↔ ¬∃ t, SavedAt.ofMoment t = r.time := by
  rw [restoring_run, ← SavedAt.moment?_eq_none_iff, restore?]
  cases r.time.moment? <;> simp

theorem restoring_of_no_minute {r : Record α} (h : ¬∃ t, SavedAt.ofMoment t = r.time) (now : Moment) (a : Accumulator α) :
    (restoring r now).run.run a = (.error r.time, a) := by
  rw [restoring_run, restore?, (SavedAt.moment?_eq_none_iff _).mpr h]
  rfl

/-- What is left of the record and of the accumulator. -/
structure Restored (r : Record α) (saved now : Moment) (before after : Accumulator α) : Prop where
  window : ∀ p, (after.totalsAt now).windows.get p = if p.same saved now then r.sums.get p else 0
  minuteSlots : after.minuteSlots.toList = if r.minuteSlots.length = 60 then r.minuteSlots else before.minuteSlots.toList
  hourSlots : after.hourSlots.toList = if r.hourSlots.length = 24 then r.hourSlots else before.hourSlots.toList
  last60 : after.last60 = Slot.total 60 now.minuteIndex after.minuteSlots.toList
  last24 : after.last24 = Slot.total 24 now.hourIndex after.hourSlots.toList

/-- Restoring a record that was saved in a minute of the calendar keeps what is still valid. -/
theorem restoring_of_minute {r : Record α} {saved : Moment} (h : SavedAt.ofMoment saved = r.time) (now : Moment)
    (a : Accumulator α) :
    ((restoring r now).run.run a).1 = .ok () ∧ Restored r saved now a ((restoring r now).run.run a).2 := by
  have hmoment : r.time.moment? = some saved.minuteStart := by rw [← h, SavedAt.moment?_ofMoment]
  rw [restoring_run, restore?, hmoment]
  refine ⟨rfl, ?_, ?_, ?_, rfl, rfl⟩
  · intro p
    rw [totalsAt_window, ← p.same_minuteStart saved]
    show ((PerPeriod.of fun p => Window.restored p (r.sums.get p) saved.minuteStart now).get p).current p now = _
    rw [PerPeriod.get_of]
    exact Window.current_restored p (r.sums.get p) saved.minuteStart now
  · exact takeSlots_toList_eq a.minuteSlots r.minuteSlots
  · exact takeSlots_toList_eq a.hourSlots r.hourSlots

end Accumulator

end

/-! ## Opening -/

/-- The record of a file, if there is a file and its text is one. -/
def Gauge.record? (format : Format) (fs : Files) (path : String) : Option (Record Float) :=
  (fs.readText path).toOption.bind format.read?

/-- A gauge is opened by restoring the record of its file, if there is one, in an empty accumulator. -/
theorem Gauge.openAt_eq_restored (format : Format) (fs : Files) (path : String) (now : Moment) :
    (openAt format fs path now).1 =
      { path := some path
        accumulator :=
          match record? format fs path with
          | none => .empty
          | some r => ((Accumulator.restoring r now).run.run .empty).2 } := by
  unfold openAt record?
  cases htext : fs.readText path with
  | error e =>
    by_cases hexists : fs.exists? path = true <;> simp [hexists, readRecord, htext, Except.toOption]
  | ok text =>
    have hexists : fs.exists? path = true := Files.exists_of_readText htext
    rw [if_pos hexists]
    cases hread : format.read? text with
    | none => simp [readRecord, htext, hread, Except.toOption]
    | some r =>
      simp only [readRecord, htext, hread, Except.toOption, Option.bind_some, Accumulator.restoring_run, restore]
      cases Accumulator.empty.restore? r now <;> rfl

/-- Restoring is all or nothing, and only keeps what is still valid. In place it makes what is made at once. It fails
exactly if the time of the record is no minute of the calendar, and then the accumulator is what it was. Else each
window reads the saved sum while the period of the saving lasts and nothing after it, slots are replaced if the record
has 60 of the minutes, and likewise if it has 24 of the hours, and the rolling totals are summed from the slots that are
there now. A gauge that is opened has a fresh accumulator, restored in this way if its file has a record, and so an
empty one if there is no file, no record in it, or no such minute. -/
theorem restoring_keeps_what_is_valid {α : Type} [Scalar α] (r : Record α) (a : Accumulator α) (now : Moment)
    (format : Format) (fs : Files) (path : String) :
    (a.restore? r now =
        match (Accumulator.restoring r now).run.run a with
        | (.ok (), b) => some b
        | (.error _, _) => none) ∧
    ((((Accumulator.restoring r now).run.run a).1 = .error r.time ↔ ¬∃ t, SavedAt.ofMoment t = r.time) ∧
      ((¬∃ t, SavedAt.ofMoment t = r.time) → ((Accumulator.restoring r now).run.run a).2 = a) ∧
      ∀ saved, SavedAt.ofMoment saved = r.time →
        ((Accumulator.restoring r now).run.run a).1 = .ok () ∧
          Accumulator.Restored r saved now a ((Accumulator.restoring r now).run.run a).2) ∧
    (Gauge.openAt format fs path now).1.path = some path ∧
    (Gauge.openAt format fs path now).1.accumulator =
      match Gauge.record? format fs path with
      | none => .empty
      | some r => ((Accumulator.restoring r now).run.run .empty).2 := by
  rw [Gauge.openAt_eq_restored]
  refine ⟨?_, ⟨Accumulator.restoring_fails_iff r now a, ?_, ?_⟩, rfl, rfl⟩
  · rw [Accumulator.restoring_run]
    cases a.restore? r now <;> rfl
  · intro h
    rw [Accumulator.restoring_of_no_minute h]
  · intro saved hsaved
    exact Accumulator.restoring_of_minute hsaved now a

/-- A record of the last minute of a leap day, from before there were slots of the minutes. -/
def legacyRecord : Record Float where
  time := ⟨2024, 2, 29, 23, 59⟩
  sums := ⟨1, 2, 3, 4, 5⟩
  last60 := 9
  last24 := 9
  minuteSlots := []
  hourSlots := (List.replicate 24 ⟨0, none⟩).set 23 ⟨3, some 474791⟩

/-- Of a record without slots of the minutes, read shortly after midnight, the year's sum and the hours are
left; the minutes are those of the rain that the accumulator had seen. With a date that the year does not
have, it changes nothing. -/
theorem legacyRecord_after_midnight :
    let now := GaugeRun.midnight
    let a := (Accumulator.empty : Accumulator Float).add 0.5 GaugeRun.beforeMidnight.time
    let after := ((Accumulator.restoring legacyRecord now).run.run a).2
    let misdated : Record Float := { legacyRecord with time := ⟨2023, 2, 29, 23, 59⟩ }
    (after.totalsAt now).windows = ⟨0, 0, 0, 0, 5⟩ ∧ after.last60 = 0.5 ∧ after.last24 = 3 ∧
      ((Accumulator.restoring misdated now).run.run a) = (.error misdated.time, a) := by
  intro now a after misdated
  obtain ⟨-, ⟨-, -, hkept⟩, -⟩ := restoring_keeps_what_is_valid legacyRecord a now .json {} "/rain.json"
  obtain ⟨-, hafter⟩ := hkept GaugeRun.beforeMidnight.time (by decide)
  obtain ⟨-, ⟨hfails, hsame, -⟩, -⟩ := restoring_keeps_what_is_valid misdated a now .json {} "/rain.json"
  have hno : ¬∃ t, SavedAt.ofMoment t = misdated.time := (SavedAt.moment?_eq_none_iff _).mp (by decide)
  have hminutes : after.minuteSlots.toList = a.minuteSlots.toList := hafter.minuteSlots
  have hhours : after.hourSlots.toList = legacyRecord.hourSlots := hafter.hourSlots
  refine ⟨?_, ?_, ?_, Prod.ext (hfails.mpr hno) (hsame hno)⟩
  · have hwindow := hafter.window
    exact (PerPeriod.mk.injEq ..).mpr ⟨hwindow .minute, hwindow .hour, hwindow .day, hwindow .month, hwindow .year⟩
  · rw [hafter.last60, hminutes]
    decide +kernel
  · rw [hafter.last24, hhours]
    decide +kernel

end WeatherRelay.Rainfall
