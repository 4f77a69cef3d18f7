import Mathlib.Data.Prod.Lex
import Mathlib.Order.Compare
import WeatherRelay.Scalar

/-!
# Doubles in order

A double that is a number has a rank, and doubles that are numbers compare as their ranks do, while the value that
is no number compares with nothing (`Double.lt_iff`, `Double.le_iff`). So the order is linear among numbers; the
two zeros have one rank.
-/

namespace WeatherRelay.Double

open Float.Model (UnpackedFloat)

/-- The rank of an unpacked double: infinities outermost, then the exponent and the mantissa, turned around below zero. -/
def rankOf : UnpackedFloat → Int ×ₗ Int ×ₗ Int
  | .infinity .negative => toLex (-2, toLex (0, 0))
  | .finite .negative mantissa exponent _ => toLex (-1, toLex (-exponent, -mantissa))
  | .finite .positive mantissa exponent _ => toLex (1, toLex (exponent, mantissa))
  | .infinity .positive => toLex (2, toLex (0, 0))
  | _ => toLex (0, toLex (0, 0))

/-- The rank of a double. -/
def rank (x : Float) : Int ×ₗ Int ×ₗ Int := rankOf x.toModel.unpack

/-- Magnitudes are compared by their exponents first, then by their mantissas. -/
theorem compare_magnitudes (e f : Int) (m n : Nat) :
    (compare e f).then (compare m n) =
      if e < f ∨ e = f ∧ m < n then .lt else if f < e ∨ f = e ∧ n < m then .gt else .eq := by
  rcases lt_trichotomy e f with h | rfl | h
  · simp [compare_lt_iff_lt.mpr h, h]
  · rcases lt_trichotomy m n with h | rfl | h
    · simp [compare_lt_iff_lt.mpr h, h]
    · simp
    · simp [compare_gt_iff_gt.mpr h, h, h.le]
  · simp [compare_gt_iff_gt.mpr h, h, h.ne', h.not_gt]

/-- Ranks of one class are compared by their second parts first, then by their third. -/
theorem cmp_sameClass (c e f m n : Int) :
    cmp (toLex (c, toLex (e, m))) (toLex (c, toLex (f, n))) =
      if e < f ∨ e = f ∧ m < n then .lt else if f < e ∨ f = e ∧ n < m then .gt else .eq := by
  simp only [cmp, cmpUsing, Prod.Lex.toLex_lt_toLex, lt_self_iff_false, false_or, true_and]

/-- Unpacked doubles that are numbers compare as their ranks do. -/
theorem compare_eq {u v : UnpackedFloat} (hu : u.isNaN = false) (hv : v.isNaN = false) :
    u.compare v = some (cmp (rankOf u) (rankOf v)) := by
  rcases u with ⟨_ | _⟩ | _ | ⟨_ | _⟩ | ⟨_ | _, m, e, hm⟩ <;> rcases v with ⟨_ | _⟩ | _ | ⟨_ | _⟩ | ⟨_ | _, n, f, hn⟩
  case finite.negative.finite.negative =>
    change some ((compare e f).then (compare m n)).swap =
      some (cmp (toLex (-1, toLex (-e, -(m : Int)))) (toLex (-1, toLex (-f, -(n : Int)))))
    rw [compare_magnitudes, cmp_sameClass]
    split_ifs <;> first | rfl | omega
  case finite.positive.finite.positive =>
    change some ((compare e f).then (compare m n)) =
      some (cmp (toLex (1, toLex (e, (m : Int)))) (toLex (1, toLex (f, (n : Int)))))
    rw [compare_magnitudes, cmp_sameClass]
    split_ifs <;> first | rfl | omega
  all_goals
    -- the class alone decides
    first
      | exact absurd hu (by decide)
      | exact absurd hv (by decide)
      | rfl

/-- What is no number compares with nothing. -/
theorem compare_isNaN {u v : UnpackedFloat} (h : u.isNaN = true ∨ v.isNaN = true) : u.compare v = none := by
  rcases h with h | h
  · cases u with
    | notANumber => rfl
    | _ => exact absurd h Bool.false_ne_true
  · cases v with
    | notANumber => cases u <;> rfl
    | _ => exact absurd h Bool.false_ne_true

variable {a b c : Float}

/-- The comparison of two doubles: none unless both are numbers, and then that of their ranks. -/
theorem compare_cases (a b : Float) :
    ¬(a.isNaN = false ∧ b.isNaN = false) ∧ a.toModel.unpack.compare b.toModel.unpack = none ∨
      (a.isNaN = false ∧ b.isNaN = false) ∧ a.toModel.unpack.compare b.toModel.unpack = some (cmp (rank a) (rank b)) := by
  by_cases h : a.isNaN = false ∧ b.isNaN = false
  · exact .inr ⟨h, compare_eq h.1 h.2⟩
  · refine .inl ⟨h, compare_isNaN ?_⟩
    rwa [not_and_or, Bool.not_eq_false, Bool.not_eq_false] at h

theorem lt_iff : a < b ↔ a.isNaN = false ∧ b.isNaN = false ∧ rank a < rank b := by
  have hlt : a < b ↔ (a.toModel.unpack.compare b.toModel.unpack == some .lt) = true := decide_eq_true_iff
  rw [hlt, ← and_assoc]
  obtain ⟨hnum, hcmp⟩ | ⟨hnum, hcmp⟩ := compare_cases a b
  · rw [hcmp]
    exact ⟨fun h => absurd h Bool.false_ne_true, fun h => absurd h.1 hnum⟩
  · rw [hcmp, beq_iff_eq, Option.some_inj, cmp_eq_lt_iff, and_iff_right hnum]

theorem le_iff : a ≤ b ↔ a.isNaN = false ∧ b.isNaN = false ∧ rank a ≤ rank b := by
  have hle : a ≤ b ↔ (a.toModel.unpack.compare b.toModel.unpack).any (·.isLE) = true := decide_eq_true_iff
  rw [hle, ← and_assoc]
  obtain ⟨hnum, hcmp⟩ | ⟨hnum, hcmp⟩ := compare_cases a b
  · rw [hcmp]
    exact ⟨fun h => absurd h Bool.false_ne_true, fun h => absurd h.1 hnum⟩
  · rw [hcmp, Option.any_some, Ordering.isLE_iff_ne_gt, cmp_eq_gt_iff, not_lt, and_iff_right hnum]

theorem le_refl (ha : a.isNaN = false) : a ≤ a := le_iff.mpr ⟨ha, ha, le_rfl⟩

theorem le_of_lt (h : a < b) : a ≤ b := by
  obtain ⟨ha, hb, hrank⟩ := lt_iff.mp h
  exact le_iff.mpr ⟨ha, hb, hrank.le⟩

theorem lt_of_le_of_lt (hab : a ≤ b) (hbc : b < c) : a < c := by
  obtain ⟨ha, -, hle⟩ := le_iff.mp hab
  obtain ⟨-, hc, hlt⟩ := lt_iff.mp hbc
  exact lt_iff.mpr ⟨ha, hc, hle.trans_lt hlt⟩

/-- Of two numbers one is below the other or at most the other. -/
theorem le_of_not_lt (ha : a.isNaN = false) (hb : b.isNaN = false) (h : ¬a < b) : b ≤ a :=
  le_iff.mpr ⟨hb, ha, not_lt.mp fun hrank => h (lt_iff.mpr ⟨ha, hb, hrank⟩)⟩

end WeatherRelay.Double
