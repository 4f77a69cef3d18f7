import Mathlib.Order.Basic
import WeatherRelay.Calendar
import WeatherRelay.Word

/-!
# The order of the calendar

The number of a day grows with year, month and day, so the clock orders moments as their fields do. Every period is a level
set of a number that never falls as time goes on (`Period.ordinal`): that two moments share a period is therefore an
equivalence, and whatever lies between two moments of a period belongs to it.
-/

namespace WeatherRelay

/-! ## Days -/

namespace Date

theorem daysBeforeMonth_succ (year : Int) (month : Nat) :
    daysBeforeMonth year (month + 1) = daysBeforeMonth year month + monthLength year month := by
  simp [daysBeforeMonth, List.range_succ]

/-- Later months have no fewer days before them. -/
theorem daysBeforeMonth_mono (year : Int) {m n : Nat} (h : m ≤ n) : daysBeforeMonth year m ≤ daysBeforeMonth year n := by
  induction n with
  | zero =>
    obtain rfl := Nat.le_zero.mp h
    exact Nat.le_refl _
  | succ n ih =>
    rcases Nat.le_succ_iff.mp h with h | rfl
    · rw [daysBeforeMonth_succ]
      exact Nat.le_trans (ih h) (Nat.le_add_right _ _)
    · exact Nat.le_refl _

/-- A year has as many days as its months. -/
theorem daysBeforeYear_succ (year : Int) :
    daysBeforeYear (year + 1) = daysBeforeYear year + (daysBeforeMonth year 13 : Nat) := by
  have hm : daysBeforeMonth year 13 = if isLeap year then 366 else 365 := by
    simp only [daysBeforeMonth, List.range_succ, monthLength]
    by_cases h : isLeap year <;> simp [h]
  rw [hm]
  by_cases h : isLeap year
  · rw [if_pos h]
    simp only [isLeap, decide_eq_true_eq] at h
    simp only [daysBeforeYear]
    omega
  · rw [if_neg h]
    simp only [isLeap, decide_eq_true_eq] at h
    simp only [daysBeforeYear]
    omega

/-- Later years have no fewer days before them. -/
theorem daysBeforeYear_mono {y z : Int} (h : y ≤ z) : daysBeforeYear y ≤ daysBeforeYear z := by
  simp only [daysBeforeYear]
  omega

/-- Beyond the twelve months there are no days. -/
theorem monthLength_eq_zero {month : Nat} (year : Int) (h : ¬(1 ≤ month ∧ month ≤ 12)) : monthLength year month = 0 := by
  unfold monthLength
  split <;> omega

/-- The month of a date is one of the twelve. -/
theorem month_mem (d : Date) : 1 ≤ d.month ∧ d.month ≤ 12 := by
  by_cases h : 1 ≤ d.month ∧ d.month ≤ 12
  · exact h
  · have hd := d.isDay
    rw [monthLength_eq_zero _ h] at hd
    omega

/-- A date lies before the end of its month. -/
theorem day_le_nextMonth (d : Date) :
    daysBeforeMonth d.year d.month + d.day ≤ daysBeforeMonth d.year (d.month + 1) := by
  rw [daysBeforeMonth_succ]
  exact Nat.add_le_add_left d.isDay.2 _

/-- A date lies before the end of its year. -/
theorem day_le_nextYear (d : Date) : daysBeforeMonth d.year d.month + d.day ≤ daysBeforeMonth d.year 13 := by
  have hm := d.month_mem
  exact Nat.le_trans d.day_le_nextMonth (daysBeforeMonth_mono _ (by omega))

theorem dayNumber_lt_of_year_lt {a b : Date} (h : a.year < b.year) : a.dayNumber < b.dayNumber := by
  have ha := a.day_le_nextYear
  have hy := daysBeforeYear_succ a.year
  have hz := daysBeforeYear_mono (y := a.year + 1) (z := b.year) (by omega)
  have hb := b.isDay.1
  simp only [dayNumber]
  omega

theorem dayNumber_lt_of_month_lt {a b : Date} (hy : a.year = b.year) (h : a.month < b.month) :
    a.dayNumber < b.dayNumber := by
  have ha := a.day_le_nextMonth
  have hm := daysBeforeMonth_mono b.year (Nat.succ_le_of_lt h)
  have hb := b.isDay.1
  simp only [dayNumber, hy] at ha ⊢
  simp only [Nat.succ_eq_add_one] at hm
  omega

/-- Days are numbered in the order of their fields. -/
theorem dayNumber_lt_iff (a b : Date) :
    a.dayNumber < b.dayNumber ↔
      a.year < b.year ∨ a.year = b.year ∧ (a.month < b.month ∨ a.month = b.month ∧ a.day < b.day) := by
  have same {a b : Date} (hy : a.year = b.year) (hm : a.month = b.month) :
      a.dayNumber - a.day = b.dayNumber - b.day := by
    simp only [dayNumber, hy, hm]
    omega
  rcases Int.lt_trichotomy a.year b.year with hy | hy | hy
  · simp [hy, dayNumber_lt_of_year_lt hy]
  · rcases Nat.lt_trichotomy a.month b.month with hm | hm | hm
    · simp [hy, hm, dayNumber_lt_of_month_lt hy hm]
    · have := same hy hm
      simp only [hy, hm, Int.lt_irrefl, Nat.lt_irrefl, false_or, true_and]
      omega
    · have := dayNumber_lt_of_month_lt hy.symm hm
      omega
  · have := dayNumber_lt_of_year_lt hy
    omega

/-- The calendar has every date under its fields. -/
theorem of?_fields (d : Date) : of? d.year d.month d.day = some d := by
  rw [of?, dif_pos ⟨d.covered, d.isDay⟩]

/-- The calendar covers fewer than a hundred million days on either side of 1970. -/
theorem dayNumber_bounds (d : Date) : -100000000 < d.dayNumber ∧ d.dayNumber < 100000000 := by
  have hyear := d.covered
  have hfirst := d.isDay.1
  have hlast := d.day_le_nextYear
  have hnext := daysBeforeYear_succ d.year
  simp only [dayNumber]
  simp only [daysBeforeYear] at hnext ⊢
  omega

/-- No two days have one number. -/
theorem dayNumber_inj {a b : Date} : a.dayNumber = b.dayNumber ↔ a = b := by
  constructor
  · intro h
    have hab := (dayNumber_lt_iff a b).not.mp (by omega)
    have hba := (dayNumber_lt_iff b a).not.mp (by omega)
    obtain ⟨_, _, _, _, _⟩ := a
    obtain ⟨_, _, _, _, _⟩ := b
    simp only [Date.mk.injEq] at hab hba ⊢
    omega
  · rintro rfl
    rfl

/-- Days stand in the order of their numbers. -/
instance : LE Date := ⟨fun a b => a.dayNumber ≤ b.dayNumber⟩

instance : DecidableLE Date := fun a b => inferInstanceAs (Decidable (a.dayNumber ≤ b.dayNumber))

instance : PartialOrder Date where
  le_refl a := Int.le_refl a.dayNumber
  le_trans _ _ _ := Int.le_trans
  le_antisymm _ _ hab hba := dayNumber_inj.mp (Int.le_antisymm hab hba)

end Date

/-! ## Moments -/

namespace Moment

/-- The calendar has every moment under its fields. -/
theorem of?_fields (t : Moment) : of? t.date.year t.date.month t.date.day t.hour t.minute t.second = some t := by
  rw [of?, Date.of?_fields, Option.bind_some, dif_pos t.isTime]

/-- Moments stand in the order of the clock. -/
instance : LE Moment := ⟨fun a b => a.epoch ≤ b.epoch⟩

instance : DecidableLE Moment := fun a b => inferInstanceAs (Decidable (a.epoch ≤ b.epoch))

instance : Preorder Moment where
  le_refl a := Int.le_refl a.epoch
  le_trans _ _ _ := Int.le_trans

theorem le_iff_epoch (a b : Moment) : a ≤ b ↔ a.epoch ≤ b.epoch := Iff.rfl

/-- The clock tells moments apart as their day, hour, minute and second do, in this order. -/
theorem epoch_lt_iff (a b : Moment) :
    a.epoch < b.epoch ↔
      a.date.dayNumber < b.date.dayNumber ∨ a.date.dayNumber = b.date.dayNumber ∧
        (a.hour < b.hour ∨ a.hour = b.hour ∧
          (a.minute < b.minute ∨ a.minute = b.minute ∧ a.second < b.second)) := by
  have ha := a.isTime
  have hb := b.isTime
  simp only [epoch]
  omega

theorem minuteIndex_eq (t : Moment) : t.minuteIndex = t.date.dayNumber * 1440 + t.hour * 60 + t.minute := by
  have ht := t.isTime
  simp only [minuteIndex, epoch]
  omega

theorem hourIndex_eq (t : Moment) : t.hourIndex = t.date.dayNumber * 24 + t.hour := by
  have ht := t.isTime
  simp only [hourIndex, epoch]
  omega

/-- The minute of the hour is the count of minutes modulo 60, before 1970 too. -/
theorem minuteIndex_emod (t : Moment) : t.minuteIndex % 60 = t.minute := by
  have ht := t.isTime
  rw [minuteIndex_eq]
  omega

/-- The hour of the day is the count of hours modulo 24, before 1970 too. -/
theorem hourIndex_emod (t : Moment) : t.hourIndex % 24 = t.hour := by
  have ht := t.isTime
  rw [hourIndex_eq]
  omega

theorem epoch_bounds (t : Moment) : -10000000000000 < t.epoch ∧ t.epoch < 10000000000000 := by
  have hday := t.date.dayNumber_bounds
  have ht := t.isTime
  simp only [epoch]
  omega

/-- Counted in units of some seconds, any two moments are so few apart that 64 bits hold the difference. -/
theorem fits_ediv_sub (a b : Moment) {seconds : Int} (h : 0 < seconds) :
    Word.Fits64 (a.epoch / seconds - b.epoch / seconds) := by
  have bounds (t : Moment) : -10000000000000 ≤ t.epoch / seconds ∧ t.epoch / seconds < 10000000000000 := by
    have ht := t.epoch_bounds
    exact ⟨Int.le_ediv_of_mul_le h (by omega), Int.ediv_lt_of_lt_mul h (by omega)⟩
  have ha := bounds a
  have hb := bounds b
  rw [Word.Fits64, Word.minInt64, Word.maxInt64]
  omega

theorem fits_minuteIndex_sub (a b : Moment) : Word.Fits64 (a.minuteIndex - b.minuteIndex) := fits_ediv_sub a b (by decide)

theorem fits_hourIndex_sub (a b : Moment) : Word.Fits64 (a.hourIndex - b.hourIndex) := fits_ediv_sub a b (by decide)

theorem minuteIndex_mono {a b : Moment} (h : a ≤ b) : a.minuteIndex ≤ b.minuteIndex :=
  Int.ediv_le_ediv (by decide) h

theorem hourIndex_mono {a b : Moment} (h : a ≤ b) : a.hourIndex ≤ b.hourIndex :=
  Int.ediv_le_ediv (by decide) h

theorem dayNumber_mono {a b : Moment} (h : a ≤ b) : a.date.dayNumber ≤ b.date.dayNumber := by
  have hlt := (epoch_lt_iff b a).mpr
  rw [le_iff_epoch] at h
  omega

end Moment

/-! ## Periods -/

namespace Period

/-- The number of the period that a moment falls in. -/
def ordinal (p : Period) (t : Moment) : Int :=
  match p with
  | .minute => t.minuteIndex
  | .hour => t.hourIndex
  | .day => t.date.dayNumber
  | .month => t.date.year * 12 + t.date.month
  | .year => t.date.year

/-- Two moments share a period when its number is the same for both. -/
theorem same_iff (p : Period) (a b : Moment) : p.same a b = true ↔ p.ordinal a = p.ordinal b := by
  have hday : (a.date.year = b.date.year ∧ a.date.month = b.date.month) ∧ a.date.day = b.date.day ↔
      a.date.dayNumber = b.date.dayNumber := by
    rw [Date.dayNumber_inj, and_assoc]
    cases a.date
    cases b.date
    simp
  have ha := a.isTime
  have hb := b.isTime
  cases p with
  | minute =>
    simp only [same, ordinal, Bool.and_eq_true, beq_iff_eq, hday, Moment.minuteIndex_eq]
    omega
  | hour =>
    simp only [same, ordinal, Bool.and_eq_true, beq_iff_eq, hday, Moment.hourIndex_eq]
    omega
  | day => simp only [same, ordinal, Bool.and_eq_true, beq_iff_eq, hday]
  | month =>
    have hma := a.date.month_mem
    have hmb := b.date.month_mem
    simp only [same, ordinal, Bool.and_eq_true, beq_iff_eq]
    omega
  | year => simp only [same, ordinal, beq_iff_eq]

/-- Time never goes back to an earlier period. -/
theorem ordinal_mono (p : Period) {a b : Moment} (h : a ≤ b) : p.ordinal a ≤ p.ordinal b := by
  have hd := Moment.dayNumber_mono h
  have hlt := (Date.dayNumber_lt_iff b.date a.date).mpr
  cases p with
  | minute => exact Moment.minuteIndex_mono h
  | hour => exact Moment.hourIndex_mono h
  | day => exact hd
  | month =>
    have hma := a.date.month_mem
    have hmb := b.date.month_mem
    simp only [ordinal]
    omega
  | year =>
    simp only [ordinal]
    omega

@[simp] theorem same_refl (p : Period) (a : Moment) : p.same a a = true := (p.same_iff a a).mpr rfl

theorem same_symm (p : Period) {a b : Moment} (h : p.same a b = true) : p.same b a = true :=
  (p.same_iff b a).mpr ((p.same_iff a b).mp h).symm

theorem same_trans (p : Period) {a b c : Moment} (hab : p.same a b = true) (hbc : p.same b c = true) :
    p.same a c = true :=
  (p.same_iff a c).mpr (((p.same_iff a b).mp hab).trans ((p.same_iff b c).mp hbc))

/-- What lies between two moments of a period belongs to it. -/
theorem same_of_between (p : Period) {a b c : Moment} (hab : a ≤ b) (hbc : b ≤ c) (h : p.same a c = true) :
    p.same a b = true := by
  have h1 := p.ordinal_mono hab
  have h2 := p.ordinal_mono hbc
  rw [same_iff] at h ⊢
  omega

/-- Two moments of one minute share every period. -/
theorem same_of_minute {a b : Moment} (h : minute.same a b = true) (p : Period) : p.same a b = true := by
  simp only [same, Bool.and_eq_true] at h
  cases p <;> simp [same, h]

end Period

end WeatherRelay
