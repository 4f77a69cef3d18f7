import WeatherRelay.Proofs.Rainfall.Rolling

/-!
# Calendar and stamps

Rain is summed by two notions of time: the windows compare calendar fields, the slots compare counts of minutes and
hours since the beginning of 1970. Both tell the same minutes and hours apart, on every date of the calendar
(`periods_agree_with_stamps`), because the calendar and the clock put all times in the same order
(`Moment.notAfter_iff`).
-/

namespace WeatherRelay

/-- To compare days by their fields and then by something else is to compare them by their numbers first. -/
theorem Date.before_or_on_iff (a b : Date) (rest : Prop) :
    (a.year < b.year ∨ a.year = b.year ∧ (a.month < b.month ∨ a.month = b.month ∧ (a.day < b.day ∨ a.day = b.day ∧ rest))) ↔
      a.dayNumber < b.dayNumber ∨ a.dayNumber = b.dayNumber ∧ rest := by
  have hday : a.dayNumber = b.dayNumber ↔ a.year = b.year ∧ a.month = b.month ∧ a.day = b.day := by
    rw [dayNumber_inj]
    cases a
    cases b
    simp
  rw [dayNumber_lt_iff, hday]
  by_cases hrest : rest
  · simp only [hrest, and_true]
    omega
  · simp only [hrest, and_false, or_false]

namespace Moment

/-- The fields of a time from the year down to a part of the second, in any unit. -/
def fields (t : Moment) (part : Nat) : List Int :=
  [t.date.year, t.date.month, t.date.day, t.hour, t.minute, t.second, part]

/-- That a time, which is a moment and a part of its second, is not after another in the calendar: the first
fields that differ tell. -/
def NotAfter (a : Moment) (f : Nat) (b : Moment) (g : Nat) : Prop := ¬List.Lex (· < ·) (b.fields g) (a.fields f)

/-- The calendar orders times as the clock does. -/
theorem notAfter_iff (a b : Moment) (f g : Nat) :
    a.NotAfter f b g ↔ a.epoch < b.epoch ∨ a.epoch = b.epoch ∧ f ≤ g := by
  have ha := a.isTime
  have hb := b.isTime
  simp only [NotAfter, fields, List.cons_lex_cons_iff, List.not_lex_nil, and_false, or_false, Nat.cast_lt, Nat.cast_inj,
    Date.before_or_on_iff, epoch]
  omega

theorem le_of_notAfter {a b : Moment} {f g : Nat} (h : a.NotAfter f b g) : a ≤ b := by
  rw [notAfter_iff] at h
  rw [le_iff_epoch]
  omega

end Moment

namespace Rainfall

/-- Calendar periods and stamps agree. Sharing a period is an equivalence; who shares a minute shares the hour, and
so on up to the year; and what lies in the calendar between two times of a period belongs to it. Two times share a
minute or an hour exactly if as many minutes or hours have gone by since the beginning of 1970, and the minute of the
hour and the hour of the day, which say where rain goes in the two rings of slots, are these counts modulo 60 and 24,
also of dates before. -/
theorem periods_agree_with_stamps :
    (∀ p : Period, Equivalence fun a b => p.same a b = true) ∧
    (∀ a b : Moment,
      (Period.minute.same a b = true → Period.hour.same a b = true) ∧
      (Period.hour.same a b = true → Period.day.same a b = true) ∧
      (Period.day.same a b = true → Period.month.same a b = true) ∧
      (Period.month.same a b = true → Period.year.same a b = true)) ∧
    (∀ (p : Period) (a b c : Moment) (f g h : Nat), a.NotAfter f b g → b.NotAfter g c h → p.same a c = true →
      p.same a b = true ∧ p.same b c = true) ∧
    (∀ a b : Moment,
      (Period.minute.same a b = true ↔ a.minuteIndex = b.minuteIndex) ∧
      (Period.hour.same a b = true ↔ a.hourIndex = b.hourIndex)) ∧
    ∀ (α : Type) [Scalar α] (a : Accumulator α) (r : Rain α),
      (r.time.minute = r.time.minuteIndex % 60 ∧ r.time.hour = r.time.hourIndex % 24) ∧
      Takes 60 Moment.minuteIndex r a.minuteSlots (a.add r.amount r.time).minuteSlots ∧
      Takes 24 Moment.hourIndex r a.hourSlots (a.add r.amount r.time).hourSlots := by
  refine ⟨?_, ?_, ?_, ?_, ?_⟩
  · intro p
    exact ⟨p.same_refl, p.same_symm, p.same_trans⟩
  · intro a b
    simp only [Period.same, Bool.and_eq_true]
    exact ⟨And.left, And.left, And.left, And.left⟩
  · intro p a b c f g h hab hbc hac
    have hsame := p.same_of_between (Moment.le_of_notAfter hab) (Moment.le_of_notAfter hbc) hac
    exact ⟨hsame, p.same_trans (p.same_symm hsame) hac⟩
  · intro a b
    exact ⟨Period.minute.same_iff a b, Period.hour.same_iff a b⟩
  · intro α _ a r
    exact ⟨⟨r.time.minuteIndex_emod.symm, r.time.hourIndex_emod.symm⟩, a.add_minuteSlots r, a.add_hourSlots r⟩

/-- The beginning of the leap day of 1968. -/
def leapDay : Moment := (Moment.of? 1968 2 29 0 0 0).getD default

/-- Within the last second of that day, half a second before its end. -/
def leapNight : Moment := (Moment.of? 1968 2 29 23 59 59).getD default

/-- The leap day before 1970 is one day in the calendar, with 24 hours of negative counts that take one slot each. -/
theorem leap_day_is_one_day :
    leapDay.NotAfter 0 leapNight 500 ∧ leapNight.NotAfter 500 leapNight 999 ∧ Period.day.same leapDay leapNight = true ∧
      leapDay.hourIndex = -16128 ∧ leapNight.hourIndex = -16105 ∧ leapNight.hour = (-16105 : Int) % 24 := by
  obtain ⟨-, -, hbetween, -, hstamps⟩ := periods_agree_with_stamps
  have hbegin : leapDay.NotAfter 0 leapNight 500 := (Moment.notAfter_iff _ _ _ _).mpr (by decide)
  have hend : leapNight.NotAfter 500 leapNight 999 := (Moment.notAfter_iff _ _ _ _).mpr (by decide)
  have hday := hbetween .day leapDay leapNight leapNight 0 500 999 hbegin hend (by decide)
  have hslot := (hstamps Float Accumulator.empty ⟨0.2, leapNight⟩).1.2
  have hindex : leapNight.hourIndex = -16105 := by decide
  exact ⟨hbegin, hend, hday.1, by decide, hindex, hindex ▸ hslot⟩

end Rainfall

end WeatherRelay
