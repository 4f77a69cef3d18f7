import WeatherRelay.Proofs.Decimal
import WeatherRelay.Proofs.Rationals
import WeatherRelay.Publish.Aprs

/-!
# Coordinates in packets

Over exact numbers a coordinate is written in columns of a fixed width, to within half a hundredth of a minute
(`coordinates_are_accurate`). What could spoil it is the carry: minutes are rounded apart from the degrees, and those
that round up to sixty must become a degree, or there would be a sixtieth minute (`split_spec`).
-/

namespace WeatherRelay.Aprs

open Decimal Scalar

/-! ## Degrees and minutes -/

/-- The hundredths of minutes of a magnitude beyond its whole degrees, rounded; up to 6000 of them. -/
def hundredths (a : Rat) : Nat := ⌊(a - ⌊a⌋₊) * 6000 + 1 / 2⌋₊

/-- The hundredths are off by no more than a half. -/
theorem hundredths_bounds {a : Rat} (ha : 0 ≤ a) :
    (a - ⌊a⌋₊) * 6000 - 1 / 2 ≤ hundredths a ∧ (hundredths a : Rat) ≤ (a - ⌊a⌋₊) * 6000 + 1 / 2 := by
  have hfloor := Nat.floor_le ha
  have hlow := Nat.lt_floor_add_one ((a - ⌊a⌋₊) * 6000 + 1 / 2)
  have hhigh := Nat.floor_le (a := (a - ⌊a⌋₊) * 6000 + 1 / 2) (by linarith)
  rw [hundredths]
  constructor <;> linarith

theorem hundredths_le {a : Rat} (ha : 0 ≤ a) : hundredths a ≤ 6000 := by
  obtain ⟨-, hhigh⟩ := hundredths_bounds ha
  have hrest := Nat.lt_floor_add_one a
  have hlt : (hundredths a : Rat) < 6001 := by linarith
  have hnat : hundredths a < 6001 := by exact_mod_cast hlt
  omega

/-- What the formula comes to over exact numbers. -/
theorem split_eq {a : Rat} (ha : 0 ≤ a) (hbound : ⌊a⌋₊ ≤ Word.maxNat32) :
    split a = if hundredths a = 6000 then (⌊a⌋₊ + 1, 0) else (⌊a⌋₊, (hundredths a : Rat) / 100) := by
  have hfloor := Nat.floor_le ha
  have hminutes : Scalar.round ((a - ⌊a⌋₊) * 60.0 * 100.0) / 100.0 = (hundredths a : Rat) / 100 := by
    have harg : (a - ⌊a⌋₊) * 60.0 * 100.0 = (a - ⌊a⌋₊) * 6000 := by
      norm_num
      ring
    rw [harg, round_eq_floor (by linarith), hundredths]
    norm_num
  have hcarry : (60.0 : Rat) ≤ (hundredths a : Rat) / 100 ↔ hundredths a = 6000 := by
    have hle := hundredths_le ha
    constructor
    · intro h
      have hcast : (6000 : Rat) ≤ hundredths a := by
        norm_num at h
        linarith
      have hnat : 6000 ≤ hundredths a := by exact_mod_cast hcast
      omega
    · intro h
      rw [h]
      norm_num
  show (if (60.0 : Rat) ≤ Scalar.round ((a - Scalar.whole a) * 60.0 * 100.0) / 100.0 then
      ((Scalar.truncate 0 Word.maxNat32 (Scalar.whole a)).toNat + 1, 0)
    else ((Scalar.truncate 0 Word.maxNat32 (Scalar.whole a)).toNat,
      Scalar.round ((a - Scalar.whole a) * 60.0 * 100.0) / 100.0)) = _
  rw [whole_eq_floor ha, truncate_natural hbound, hminutes, Int.toNat_natCast]
  exact if_congr hcarry rfl rfl

/-- Degrees and minutes are whole hundredths of minutes, fewer than sixty minutes of them, and off by no
more than half of one. -/
theorem split_spec {a : Rat} (ha : 0 ≤ a) (hbound : ⌊a⌋₊ ≤ Word.maxNat32) :
    ∃ degrees n : Nat, split a = (degrees, (n : Rat) / 100) ∧ n ≤ 5999 ∧
      |(degrees : Rat) * 60 + n / 100 - a * 60| ≤ 0.005 := by
  obtain ⟨hlow, hhigh⟩ := hundredths_bounds ha
  have hle := hundredths_le ha
  rw [split_eq ha hbound]
  by_cases hcarry : hundredths a = 6000
  · refine ⟨⌊a⌋₊ + 1, 0, ?_, by decide, ?_⟩
    · rw [if_pos hcarry]
      norm_num
    · rw [hcarry] at hlow hhigh
      push_cast at hlow hhigh ⊢
      rw [abs_le]
      constructor <;> linarith
  · refine ⟨⌊a⌋₊, hundredths a, if_neg hcarry, by omega, ?_⟩
    rw [abs_le]
    constructor <;> linarith

/-! ## The text -/

/-- That a text is a coordinate: degrees in columns of a width, two digits of minutes, a point, two digits of their
hundredths, and the letter of a side. -/
def IsCoordinate (width degrees minutes part : Nat) (side : Char) (text : List Char) : Prop :=
  ∃ ds ms hs, text = ds ++ ms ++ '.' :: hs ++ [side] ∧ Fills width degrees ds ∧ Fills 2 minutes ms ∧ Fills 2 part hs

/-- Minutes with two places, as a packet has them. -/
theorem minutes_text {n : Nat} (h : n ≤ 5999) :
    ∃ ms hs minutes part, (Scalar.exact ((n : Rat) / 100)).fixedZeros 5 2 = ms ++ '.' :: hs ∧
      Fills 2 minutes ms ∧ Fills 2 part hs ∧ n = 100 * minutes + part := by
  have hnonneg : (0 : Rat) ≤ (n : Rat) / 100 := by positivity
  have hexact : Scalar.exact ((n : Rat) / 100) = .finite false ((n : Rat) / 100).num.natAbs ((n : Rat) / 100).den := by
    show Exact.finite (decide ((n : Rat) / 100 < 0)) _ _ = _
    rw [decide_eq_false (not_lt.mpr hnonneg)]
  have hvalue : ((n : Rat) / 100).num.natAbs * 10 ^ 2 = n * ((n : Rat) / 100).den := by
    have hnum : (((n : Rat) / 100).num.natAbs : Int) = ((n : Rat) / 100).num :=
      Int.natAbs_of_nonneg (Rat.num_nonneg.mpr hnonneg)
    have hquotient : (((n : Rat) / 100).num : Rat) = n / 100 * ((n : Rat) / 100).den := by
      rw [Rat.mul_den_eq_num]
    have hcast : ((((n : Rat) / 100).num.natAbs : Int) : Rat) * 10 ^ 2 = n * ((n : Rat) / 100).den := by
      rw [hnum, hquotient]
      ring
    exact_mod_cast hcast
  rw [hexact]
  exact fixedZeros_eq (by decide : 0 < 2) (by decide) ((n : Rat) / 100).den_pos hvalue (by omega)

/-- A coordinate of no more than so many degrees is written well, and to within half a hundredth of a minute. -/
theorem coordinate_spec {width limit : Nat} (hwidth : 0 < width) (hroom : limit < 10 ^ width) (hbound : limit ≤ Word.maxNat32)
    (positive negative : Char) {x : Rat} (hx : |x| ≤ limit) :
    ∃ degrees minutes part : Nat,
      IsCoordinate width degrees minutes part (if x < 0 then negative else positive) (coordinate width positive negative x) ∧
      (minutes : Rat) + part / 100 ≤ 59.99 ∧
      |(degrees : Rat) * 60 + (minutes + part / 100) - |x| * 60| ≤ 0.005 ∧ degrees ≤ limit := by
  have habs : Scalar.abs x = |x| := by
    show (if x < 0 then -x else x) = |x|
    split
    case isTrue h => exact (abs_of_neg h).symm
    case isFalse h => exact (abs_of_nonneg (not_lt.mp h)).symm
  have hfloor : ⌊|x|⌋₊ ≤ Word.maxNat32 := le_trans (Nat.floor_le_of_le hx) hbound
  obtain ⟨degrees, n, hsplit, hn, hoff⟩ := split_spec (abs_nonneg x) hfloor
  obtain ⟨ms, hs, minutes, part, htext, hms, hhs, hparts⟩ := minutes_text hn
  have hvalue : (n : Rat) / 100 = minutes + part / 100 := by
    rw [hparts]
    push_cast
    ring
  have hdegrees : degrees ≤ limit := by
    have hlt : (degrees : Rat) < limit + 1 := by
      have hlow := (abs_le.mp hoff).2
      have hn0 : (0 : Rat) ≤ (n : Rat) / 100 := by positivity
      norm_num at hlow
      linarith
    have hnat : degrees < limit + 1 := by exact_mod_cast hlt
    omega
  refine ⟨degrees, minutes, part, ⟨column width degrees, ms, hs, ?_, ?_, hms, hhs⟩, ?_, ?_, hdegrees⟩
  · rw [coordinate, habs, hsplit]
    show column width degrees ++ (Scalar.exact ((n : Rat) / 100)).fixedZeros 5 2 ++ _ = _
    rw [htext]
    simp only [List.append_assoc]
  · rw [column_natural]
    exact fills_padLeft hwidth (by omega)
  · have hcast : (n : Rat) ≤ 5999 := by exact_mod_cast hn
    rw [← hvalue]
    norm_num
    linarith
  · rw [← hvalue]
    exact hoff

/-- Coordinates are well formed and accurate. Over exact numbers, a latitude is two digits of degrees, two of minutes, a
point, two digits and a letter, and a longitude the same with three digits of degrees. The minutes are at most 59.99,
the letter is that of the negative side exactly for negative coordinates, and degrees and minutes are off by at most
half a hundredth of a minute, so that there are never more than 90 and 180 degrees. -/
theorem coordinates_are_accurate (x y : Rat) (hx : -90 ≤ x ∧ x ≤ 90) (hy : -180 ≤ y ∧ y ≤ 180) :
    (∃ degrees minutes part : Nat, IsCoordinate 2 degrees minutes part (if x < 0 then 'S' else 'N') (latitude x) ∧
      (minutes : Rat) + part / 100 ≤ 59.99 ∧
      |(degrees : Rat) * 60 + (minutes + part / 100) - |x| * 60| ≤ 0.005 ∧ degrees ≤ 90) ∧
    ∃ degrees minutes part : Nat, IsCoordinate 3 degrees minutes part (if y < 0 then 'W' else 'E') (longitude y) ∧
      (minutes : Rat) + part / 100 ≤ 59.99 ∧
      |(degrees : Rat) * 60 + (minutes + part / 100) - |y| * 60| ≤ 0.005 ∧ degrees ≤ 180 := by
  constructor
  · exact coordinate_spec (by decide) (by decide) (by decide) 'N' 'S' (by simpa using abs_le.mpr hx)
  · exact coordinate_spec (by decide) (by decide) (by decide) 'E' 'W' (by simpa using abs_le.mpr hy)

/-- Less than a hundredth of a minute below a whole degree, the minutes become the degree. -/
theorem coordinates_below_whole_degrees :
    latitude (-89.99999 : Rat) = "9000.00S".toList ∧ longitude (179.99995 : Rat) = "18000.00E".toList ∧
      ∃ degrees minutes part : Nat, IsCoordinate 2 degrees minutes part 'S' (latitude (-89.99999 : Rat)) ∧ degrees ≤ 90 := by
  obtain ⟨⟨degrees, minutes, part, hform, -, -, hdegrees⟩, -⟩ :=
    coordinates_are_accurate (-89.99999) 179.99995 (by norm_num) (by norm_num)
  rw [if_pos (by norm_num)] at hform
  exact ⟨by decide +kernel, by decide +kernel, degrees, minutes, part, hform, hdegrees⟩

end WeatherRelay.Aprs
