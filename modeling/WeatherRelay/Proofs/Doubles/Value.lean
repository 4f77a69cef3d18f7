import Mathlib
import WeatherRelay.Proofs.Doubles

/-!
# Exact values of doubles

A finite double is a mantissa times a power of two (`value`). What text is rounded from is this value
(`ofFloat_eq`), finite doubles are in the order of their values (`value_le_of_le`), and so rounding to whole numbers
keeps their order (`nearest_mono`).
-/

namespace WeatherRelay.Double
open Float.Model (UnpackedFloat)
open Float.Model.UnpackedFloat

/-! ## Fields -/

theorem toNat_unpackMantissa (x : Float) :
    (@unpackMantissa .binary64 x.toModel.toBits.toBitVec).toNat = (Decimal.fields x).2.2 := by
  rw [unpackMantissa, BitVec.toNat_cast, BitVec.extractLsb_toNat]
  rfl

theorem toNat_unpackExponent (x : Float) :
    (@unpackExponent .binary64 x.toModel.toBits.toBitVec).toNat = (Decimal.fields x).2.1 := by
  rw [unpackExponent, BitVec.toNat_cast, BitVec.extractLsb_toNat, Nat.shiftRight_eq_div_pow]
  rfl

/-- The sign of a double. -/
def signOf (negative : Bool) : Sign := if negative then .negative else .positive

theorem unpackSign_eq (x : Float) :
    Sign.ofBitVec (@unpackSign .binary64 x.toModel.toBits.toBitVec) = signOf (Decimal.fields x).1 := by
  have hbit : (@unpackSign .binary64 x.toModel.toBits.toBitVec).toNat = x.toBits.toNat / 2 ^ 63 := by
    rw [unpackSign, BitVec.toNat_cast, BitVec.extractLsb_toNat, Nat.shiftRight_eq_div_pow]
    refine Nat.mod_eq_of_lt ?_
    have hlt := x.toBits.toNat_lt
    show x.toBits.toNat / 2 ^ 63 < 2 ^ 1
    omega
  have hfield : (Decimal.fields x).1 = (x.toBits.toNat / 2 ^ 63 == 1) := rfl
  rw [hfield, ← hbit, Sign.ofBitVec, signOf]
  generalize @unpackSign .binary64 x.toModel.toBits.toBitVec = b
  obtain rfl | rfl : b = 0#1 ∨ b = 1#1 := by
    revert b
    decide
  · rfl
  · rfl

/-- What a double that is a number is unpacked to, by its fields. -/
theorem unpack_cases (x : Float) :
    let (negative, e, f) := Decimal.fields x
    e = 2047 ∧ x.toModel.unpack.isFinite = false ∨
      e = 0 ∧ f = 0 ∧ x.toModel.unpack = .zero (signOf negative) ∨
      (∃ h, e = 0 ∧ x.toModel.unpack = .finite (signOf negative) f (-1074) h) ∨
      ∃ h, e ≠ 0 ∧ e ≠ 2047 ∧ x.toModel.unpack = .finite (signOf negative) (2 ^ 52 + f) (e - 1075) h := by
  have hm := toNat_unpackMantissa x
  have he := toNat_unpackExponent x
  have hs := unpackSign_eq x
  have hexponent : ∀ v : BitVec 11, @unpackExponent .binary64 x.toModel.toBits.toBitVec = v ↔ (Decimal.fields x).2.1 = v.toNat :=
    fun v => by rw [← he]; exact BitVec.toNat_inj.symm
  have hmantissa : @unpackMantissa .binary64 x.toModel.toBits.toBitVec = 0#52 ↔ (Decimal.fields x).2.2 = 0 := by
    rw [← hm]; exact BitVec.toNat_inj.symm
  show (Decimal.fields x).2.1 = 2047 ∧ _ ∨ (Decimal.fields x).2.1 = 0 ∧ (Decimal.fields x).2.2 = 0 ∧ _ ∨ _
  unfold Float.Model.unpack unpack
  dsimp only
  split
  case isTrue h =>
    refine .inl ⟨(hexponent _).mp h, ?_⟩
    split <;> rfl
  case isFalse h =>
    split
    case isTrue hzero =>
      split
      case isTrue hm0 => exact .inr (.inl ⟨(hexponent _).mp hzero, hmantissa.mp hm0, congrArg _ hs⟩)
      case isFalse hm0 =>
        refine .inr (.inr (.inl ⟨Nat.pos_of_ne_zero (hmantissa.not.mp hm0), (hexponent _).mp hzero, ?_⟩))
        have hexp : ((Decimal.fields x).2.1 : Int) = 0 := by exact_mod_cast (hexponent _).mp hzero
        rw [UnpackedFloat.finite.injEq, he, hexp]
        exact ⟨hs, hm, rfl⟩
    case isFalse hzero =>
      refine .inr (.inr (.inr ⟨by positivity, (hexponent _).not.mp hzero, (hexponent _).not.mp h, ?_⟩))
      rw [UnpackedFloat.finite.injEq, he]
      refine ⟨hs, ?_, rfl⟩
      rw [BitVec.toNat_append, hm, ← Nat.shiftLeft_add_eq_or_of_lt (hm ▸ BitVec.isLt _)]
      rfl

/-! ## Values -/

/-- The exact value of an unpacked double; an infinite one or what is no number has none, and zero stands for it. -/
def valueOf : UnpackedFloat → Rat
  | .finite .negative m e _ => -(m * 2 ^ e)
  | .finite .positive m e _ => m * 2 ^ e
  | _ => 0

/-- The exact value of a double. -/
def value (x : Float) : Rat := valueOf x.toModel.unpack

/-- That a mantissa and an exponent are those of a double: a mantissa of 53 bits, whose first bit is set unless the
exponent is the smallest. -/
structure Canonical (m : Nat) (e : Int) : Prop where
  lt : m < 2 ^ 53
  least : -1074 ≤ e
  greatest : e ≤ 971
  normal : e = -1074 ∨ 2 ^ 52 ≤ m

theorem fields_bounds (x : Float) : (Decimal.fields x).2.1 < 2 ^ 11 ∧ (Decimal.fields x).2.2 < 2 ^ 52 :=
  ⟨Nat.mod_lt _ (by decide), Nat.mod_lt _ (by decide)⟩

theorem canonical_of_unpack {x : Float} {s : Sign} {m : Nat} {e : Int} {h : 0 < m}
    (hx : x.toModel.unpack = .finite s m e h) : Canonical m e := by
  obtain ⟨he, hf⟩ := fields_bounds x
  have hcases := unpack_cases x
  generalize Decimal.fields x = fields at *
  obtain ⟨negative, exponent, fraction⟩ := fields
  simp only at he hf hcases
  rcases hcases with ⟨-, hfinite⟩ | ⟨-, -, hzero⟩ | ⟨_, -, hsmall⟩ | ⟨_, h0, h2047, hnormal⟩
  · rw [hx] at hfinite
    cases hfinite
  · rw [hx] at hzero
    cases hzero
  · rw [hx] at hsmall
    obtain ⟨-, rfl, rfl⟩ := UnpackedFloat.finite.inj hsmall
    exact ⟨by omega, by omega, by omega, .inl rfl⟩
  · rw [hx] at hnormal
    obtain ⟨-, rfl, rfl⟩ := UnpackedFloat.finite.inj hnormal
    exact ⟨by omega, by omega, by omega, .inr (by omega)⟩

/-- The sign of a value. -/
theorem valueOf_finite (negative : Bool) (m : Nat) (e : Int) (h : 0 < m) :
    valueOf (.finite (signOf negative) m e h) = if negative then -((m : Rat) * 2 ^ e) else (m : Rat) * 2 ^ e := by
  cases negative <;> rfl

/-- A mantissa with a negative exponent is a quotient by a power of two. -/
theorem mul_two_zpow_neg (m n : Nat) : (m : Rat) * 2 ^ (-n : Int) = (m : Rat) / Decimal.twos n := by
  have htwos : (Decimal.twos n : Rat) = 2 ^ n := Nat.cast_pow 2 n
  rw [zpow_neg, zpow_natCast, htwos, div_eq_mul_inv]

theorem twos_pos (n : Nat) : 0 < Decimal.twos n := Nat.two_pow_pos n

/-- The quotient of a double with the smallest exponent. -/
theorem ofFloat_small {x : Float} {negative : Bool} {f : Nat} (hfields : Decimal.fields x = (negative, 0, f)) :
    Decimal.ofFloat x = .finite negative f (Decimal.twos 1074) := by
  unfold Decimal.ofFloat
  rw [hfields]
  rfl

/-- The quotient of a double whose first bit is set. -/
theorem ofFloat_normal {x : Float} {negative : Bool} {e f : Nat} (hfields : Decimal.fields x = (negative, e, f)) (h0 : e ≠ 0)
    (h2047 : e ≠ 2047) :
    Decimal.ofFloat x =
      if e < 1075 then .finite negative (Decimal.twos 52 + f) (Decimal.twos (1075 - e))
      else .finite negative ((Decimal.twos 52 + f) * Decimal.twos (e - 1075)) 1 := by
  unfold Decimal.ofFloat
  rw [hfields]
  split
  case h_1 h => exact absurd (Prod.mk.inj (Prod.mk.inj h).2).1 h2047
  case h_2 h => exact absurd (Prod.mk.inj (Prod.mk.inj h).2).1 h2047
  case h_3 h => exact absurd (Prod.mk.inj (Prod.mk.inj h).2).1 h0
  case h_4 h =>
    obtain ⟨rfl, rfl, rfl⟩ := (by simpa using h)
    rfl

/-- The quotient that text is rounded from is the exact value. -/
theorem ofFloat_eq {x : Float} (hx : x.isFinite = true) :
    ∃ negative num den, Decimal.ofFloat x = .finite negative num den ∧ 0 < den ∧
      value x = if negative then -((num : Rat) / den) else (num : Rat) / den := by
  have hcases := unpack_cases x
  obtain ⟨negative, exponent, fraction, hfields⟩ : ∃ n e f, Decimal.fields x = (n, e, f) := ⟨_, _, _, rfl⟩
  simp only [hfields] at hcases
  rcases hcases with ⟨-, hfinite⟩ | ⟨rfl, rfl, hzero⟩ | ⟨h, rfl, hsmall⟩ | ⟨h, h0, h2047, hnormal⟩
  · exact absurd (hx.symm.trans hfinite) (by decide)
  · refine ⟨negative, 0, Decimal.twos 1074, ofFloat_small hfields, twos_pos _, ?_⟩
    have hnothing : ((0 : Nat) : Rat) / (Decimal.twos 1074 : Nat) = 0 := by rw [Nat.cast_zero, zero_div]
    rw [value, hzero, hnothing, neg_zero, ite_self]
    rfl
  · refine ⟨negative, fraction, Decimal.twos 1074, ofFloat_small hfields, twos_pos _, ?_⟩
    rw [value, hsmall, valueOf_finite, ← mul_two_zpow_neg]
    rfl
  · rw [ofFloat_normal hfields h0 h2047, value, hnormal, valueOf_finite]
    by_cases hlow : exponent < 1075
    · refine ⟨negative, _, _, if_pos hlow, twos_pos _, ?_⟩
      rw [← mul_two_zpow_neg, Int.ofNat_sub hlow.le, neg_sub]
      rfl
    · refine ⟨negative, _, _, if_neg hlow, Nat.one_pos, ?_⟩
      have hexp : (exponent : Int) - 1075 = ((exponent - 1075 : Nat) : Int) := by omega
      have htwos : ∀ n, (Decimal.twos n : Rat) = 2 ^ n := Nat.cast_pow 2
      rw [hexp, zpow_natCast, Nat.cast_mul, htwos, Nat.cast_one, div_one]
      rfl

/-! ## Order -/

/-- Magnitudes are in the order of their exponents, and of their mantissas where the exponents are the same. -/
theorem magnitude_le {m n : Nat} {e f : Int} (hm : Canonical m e) (hn : Canonical n f) (h : e < f ∨ e = f ∧ m ≤ n) :
    (m : Rat) * 2 ^ e ≤ n * 2 ^ f := by
  rcases h with hlt | ⟨rfl, hle⟩
  · have hfirst : 2 ^ 52 ≤ n := by
      have hleast := hm.least
      rcases hn.normal with h | h
      · omega
      · exact h
    have hbelow : (m : Rat) ≤ 2 ^ 53 := by exact_mod_cast hm.lt.le
    have habove : (2 : Rat) ^ 52 ≤ n := by exact_mod_cast hfirst
    calc (m : Rat) * 2 ^ e ≤ 2 ^ 53 * 2 ^ e := by gcongr
      _ = 2 ^ 52 * 2 ^ (e + 1) := by rw [zpow_add_one₀ (by norm_num)]; ring
      _ ≤ 2 ^ 52 * 2 ^ f := by
        have hexp : (2 : Rat) ^ (e + 1) ≤ 2 ^ f := zpow_le_zpow_right₀ (by norm_num) (by omega)
        gcongr
      _ ≤ n * 2 ^ f := by gcongr
  · have hcast : (m : Rat) ≤ n := by exact_mod_cast hle
    gcongr

theorem magnitude_nonneg (m : Nat) (e : Int) : 0 ≤ (m : Rat) * 2 ^ e := by positivity

/-- A finite double is zero, or it has a sign, a mantissa and an exponent. -/
theorem isFinite_cases {u : UnpackedFloat} (h : u.isFinite = true) :
    (∃ s, u = .zero s) ∨ (∃ m e hm, u = .finite .negative m e hm) ∨ ∃ m e hm, u = .finite .positive m e hm := by
  rcases u with _ | _ | s | ⟨_ | _, m, e, hm⟩
  · exact absurd h Bool.false_ne_true
  · exact absurd h Bool.false_ne_true
  · exact .inl ⟨s, rfl⟩
  · exact .inr (.inl ⟨m, e, hm, rfl⟩)
  · exact .inr (.inr ⟨m, e, hm, rfl⟩)

/-- Finite doubles have values in their order. -/
theorem value_le_of_le {a b : Float} (ha : a.isFinite = true) (hb : b.isFinite = true) (h : a ≤ b) : value a ≤ value b := by
  obtain ⟨-, -, hrank⟩ := le_iff.mp h
  unfold rank at hrank
  unfold value
  rcases isFinite_cases ha with ⟨s, hu⟩ | ⟨m, e, hm, hu⟩ | ⟨m, e, hm, hu⟩ <;>
    rcases isFinite_cases hb with ⟨t, hv⟩ | ⟨n, f, hn, hv⟩ | ⟨n, f, hn, hv⟩ <;>
    rw [hu, hv] at hrank ⊢ <;>
    simp only [rankOf, Prod.Lex.toLex_le_toLex, lt_self_iff_false, false_or, true_and] at hrank
  -- from zero, from below zero, from above zero
  · exact le_rfl
  · exact absurd hrank (by omega)
  · exact magnitude_nonneg n f
  · exact neg_nonpos.mpr (magnitude_nonneg m e)
  · exact neg_le_neg (magnitude_le (canonical_of_unpack hv) (canonical_of_unpack hu) (by omega))
  · exact (neg_nonpos.mpr (magnitude_nonneg m e)).trans (magnitude_nonneg n f)
  · exact absurd hrank (by omega)
  · exact absurd hrank (by omega)
  · exact magnitude_le (canonical_of_unpack hu) (canonical_of_unpack hv) (by omega)

/-- Among numbers the finite ones are those of the inner ranks. -/
theorem isFinite_iff_rank {u : UnpackedFloat} (h : u.isNaN = false) :
    u.isFinite = true ↔ -1 ≤ (ofLex (rankOf u)).1 ∧ (ofLex (rankOf u)).1 ≤ 1 := by
  rcases u with ⟨_ | _⟩ | _ | _ | ⟨_ | _⟩
  case notANumber => exact absurd h (by decide)
  all_goals simp [rankOf, UnpackedFloat.isFinite]

/-- Between finite doubles all are finite. -/
theorem isFinite_of_between {a b x : Float} (ha : a.isFinite = true) (hb : b.isFinite = true) (hax : a ≤ x) (hxb : x ≤ b) :
    x.isFinite = true := by
  obtain ⟨hnumA, hnumX, hlow⟩ := le_iff.mp hax
  obtain ⟨-, hnumB, hhigh⟩ := le_iff.mp hxb
  obtain ⟨hleast, -⟩ := (isFinite_iff_rank hnumA).mp ha
  obtain ⟨-, hgreatest⟩ := (isFinite_iff_rank hnumB).mp hb
  exact (isFinite_iff_rank hnumX).mpr
    ⟨hleast.trans (Prod.Lex.monotone_fst _ _ hlow), (Prod.Lex.monotone_fst _ _ hhigh).trans hgreatest⟩

/-! ## Whole numbers -/

/-- The nearest whole number, a half going away from zero. -/
def nearestWhole (v : Rat) : Int := if v < 0 then -⌊-v + 1 / 2⌋ else ⌊v + 1 / 2⌋

theorem nearestWhole_of_nonneg {v : Rat} (h : 0 ≤ v) : nearestWhole v = ⌊v + 1 / 2⌋ := if_neg (not_lt.mpr h)

/-- Rounding is the same on both sides of zero. -/
theorem nearestWhole_neg (v : Rat) : nearestWhole (-v) = -nearestWhole v := by
  rcases lt_trichotomy v 0 with h | rfl | h
  · rw [nearestWhole_of_nonneg (by linarith), nearestWhole, if_pos h, neg_neg]
  · norm_num [nearestWhole]
  · rw [nearestWhole_of_nonneg h.le, nearestWhole, if_pos (by linarith), neg_neg]

theorem nearestWhole_mono {v w : Rat} (h : v ≤ w) : nearestWhole v ≤ nearestWhole w := by
  have hnonneg : ∀ {u : Rat}, 0 ≤ u → 0 ≤ nearestWhole u := fun hu => by
    rw [nearestWhole_of_nonneg hu]
    exact Int.floor_nonneg.mpr (by linarith)
  rcases lt_or_ge w 0 with hw | hw
  · have hv : v < 0 := h.trans_lt hw
    rw [nearestWhole, nearestWhole, if_pos hv, if_pos hw]
    exact neg_le_neg (Int.floor_le_floor (by linarith))
  · rcases lt_or_ge v 0 with hv | hv
    · have hopposite := hnonneg (u := -v) (by linarith)
      rw [nearestWhole_neg] at hopposite
      have hzero := hnonneg hw
      omega
    · rw [nearestWhole_of_nonneg hv, nearestWhole_of_nonneg hw]
      exact Int.floor_le_floor (by linarith)

/-- The whole number that a double is rounded to is the nearest to its exact value, within bounds. -/
theorem nearest_eq (lo hi : Int) {x : Float} (hx : x.isFinite = true) :
    Scalar.nearest lo hi x = max lo (min hi (nearestWhole (value x))) := by
  obtain ⟨negative, num, den, hexact, hden, hvalue⟩ := ofFloat_eq hx
  have hquotient : nearestWhole ((num : Rat) / den) = ((2 * num + den) / (2 * den) : Nat) := by
    have hpos : (den : Rat) ≠ 0 := by positivity
    have hsum : (num : Rat) / den + 1 / 2 = ((2 * num + den : Nat) : Rat) / ((2 * den : Nat) : Rat) := by
      push_cast
      field_simp
    rw [nearestWhole_of_nonneg (by positivity), hsum, Rat.floor_natCast_div_natCast]
    rfl
  have hnearest : Scalar.nearest lo hi x = (Decimal.ofFloat x).nearest lo hi := rfl
  rw [hnearest, hexact, Decimal.Exact.nearest, Decimal.Exact.toWhole, hvalue]
  cases negative
  · simp only [Bool.false_eq_true, if_false, hquotient]
  · simp only [if_true, nearestWhole_neg, hquotient]

/-- Rounding to whole numbers keeps the order. -/
theorem nearest_mono (lo hi : Int) {a b : Float} (ha : a.isFinite = true) (hb : b.isFinite = true) (h : a ≤ b) :
    Scalar.nearest lo hi a ≤ Scalar.nearest lo hi b := by
  rw [nearest_eq lo hi ha, nearest_eq lo hi hb]
  have hwhole := nearestWhole_mono (value_le_of_le ha hb h)
  omega

end WeatherRelay.Double
