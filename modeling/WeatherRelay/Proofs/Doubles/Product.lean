import WeatherRelay.Proofs.Doubles.Value

/-!
# Products of doubles

A product of doubles is the exact product with as many bits as there is room for, rounded, so it is larger by one unit
of its last place at most (`mul_le`).
-/

namespace WeatherRelay.Double
open Float.Model (UnpackedFloat)
open Float.Model.UnpackedFloat

/-! ## Packing -/

/-- What is unpacked of an exponent that is neither the first nor the last. -/
theorem unpack_normal (s : Sign) {e m : Nat} (he : 0 < e) (he' : e < 2047) (hm : m < 2 ^ 52) :
    unpack .binary64 (packComponents .binary64 s (BitVec.ofNat 11 e) (BitVec.ofNat 52 m)) =
      .finite s (2 ^ 52 + m) (e - 1075) (by omega) := by
  have hexponent : (BitVec.ofNat 11 e).toNat = e := by rw [BitVec.toNat_ofNat, Nat.mod_eq_of_lt (by omega)]
  have hmantissa : (BitVec.ofNat 52 m).toNat = m := by rw [BitVec.toNat_ofNat, Nat.mod_eq_of_lt hm]
  have hones : BitVec.ofNat 11 e ≠ -1#11 := fun h => he'.ne (hexponent.symm.trans (congrArg BitVec.toNat h))
  have hzero : BitVec.ofNat 11 e ≠ 0#11 := fun h => he.ne' (hexponent.symm.trans (congrArg BitVec.toNat h))
  rw [unpack]
  simp only [unpackMantissa_packComponents, unpackExponent_packComponents, unpackSign_packComponents,
    Sign.ofBitVec_toBitVec]
  rw [if_neg hones, if_neg hzero, UnpackedFloat.finite.injEq, hexponent]
  refine ⟨rfl, ?_, rfl⟩
  rw [BitVec.toNat_append, hmantissa, ← Nat.shiftLeft_add_eq_or_of_lt hm]
  rfl

/-- What is unpacked of the first exponent. -/
theorem unpack_small (s : Sign) {m : Nat} (h : 0 < m) (hm : m < 2 ^ 52) :
    unpack .binary64 (packComponents .binary64 s 0#11 (BitVec.ofNat 52 m)) = .finite s m (-1074) h := by
  have hmantissa : (BitVec.ofNat 52 m).toNat = m := by rw [BitVec.toNat_ofNat, Nat.mod_eq_of_lt hm]
  have hzero : BitVec.ofNat 52 m ≠ 0#52 := fun heq => h.ne' (hmantissa.symm.trans (congrArg BitVec.toNat heq))
  rw [unpack]
  simp only [unpackMantissa_packComponents, unpackExponent_packComponents, unpackSign_packComponents,
    Sign.ofBitVec_toBitVec]
  rw [if_neg (by decide), if_pos trivial, dif_neg hzero, UnpackedFloat.finite.injEq, hmantissa]
  exact ⟨rfl, rfl, rfl⟩

/-- A finite double is what it was packed from. -/
theorem unpack_pack (s : Sign) {m : Nat} {e : Int} (h : 0 < m) (hc : Canonical m e) :
    (Float.Model.pack (.finite s m e h)).unpack = .finite s m e h := by
  obtain ⟨hlt, hleast, hgreatest, hnormal⟩ := hc
  have hfits : ¬2 ^ 11 ≤ (e + 1023 + 52).toNat + 1 := by omega
  show unpack .binary64 (pack .binary64 (.finite s m e h)) = _
  by_cases hfirst : 2 ^ 52 ≤ m
  · have hlog : m.log2 = 52 := (Nat.log2_eq_iff (by omega)).mpr ⟨hfirst, hlt⟩
    have hrest : BitVec.ofNat 52 m = BitVec.ofNat 52 (m - 2 ^ 52) := by
      rw [← BitVec.toNat_inj, BitVec.toNat_ofNat, BitVec.toNat_ofNat]
      omega
    have hpack : pack .binary64 (.finite s m e h) =
        packComponents .binary64 s (BitVec.ofNat 11 (e + 1023 + 52).toNat) (BitVec.ofNat 52 (m - 2 ^ 52)) := by
      refine (if_neg hfits).trans ((if_pos ?_).trans (congrArg _ hrest))
      rw [hlog]
      rfl
    rw [hpack, unpack_normal s (by omega) (by omega) (by omega), UnpackedFloat.finite.injEq]
    exact ⟨rfl, by omega, by omega⟩
  · have hlog : ¬m.log2 + 1 = 53 := by
      have hbits := (Nat.log2_lt (n := m) (k := 52) (by omega)).mpr (by omega)
      omega
    have hpack : pack .binary64 (.finite s m e h) = packComponents .binary64 s 0#11 (BitVec.ofNat 52 m) :=
      (if_neg hfits).trans (if_neg hlog)
    obtain rfl : e = -1074 := hnormal.resolve_right hfirst
    rw [hpack, unpack_small s h (by omega)]

/-! ## Rounding a mantissa -/

/-- Shifting drops the last bits. -/
theorem mantissa_shiftRight (em : ExtendedMantissa) (k : Nat) : (em >>> k).mantissa = em.mantissa / 2 ^ k := by
  show (k.repeat ExtendedMantissa.shiftRightOne em).mantissa = _
  induction k with
  | zero => simp [Nat.repeat]
  | succ k ih =>
    show (k.repeat ExtendedMantissa.shiftRightOne em).mantissa / 2 = _
    rw [ih, Nat.div_div_eq_div_mul, Nat.pow_succ]

/-- Rounding goes up to the next mantissa at most. -/
theorem roundedMantissa_bounds (em : ExtendedMantissa) :
    em.mantissa ≤ em.roundedMantissa ∧ em.roundedMantissa ≤ em.mantissa + 1 := by
  rcases em with ⟨m, _ | _, _ | _⟩ <;>
    simp only [ExtendedMantissa.roundedMantissa, ExtendedMantissa.accuracy, Accuracy.roundToNearestEven] <;> omega

/-- The exponent at which there is room for the first 53 bits of a mantissa. -/
def targetOf (m : Nat) (e : Int) : Int := max (m.log2 + e - 52) (-1074)

theorem targetExponent_eq (m : Nat) (e : Int) :
    Float.Model.Format.targetExponent .binary64 (Float.Model.totalExponent m e) = targetOf m e := by
  show max (((m.log2 : Int) + 1 + e) - 53) (-1074) = max ((m.log2 : Int) + e - 52) (-1074)
  omega

/-- A mantissa that is long enough is shifted to the right. -/
theorem exists_shift {m : Nat} (hm : 2 ^ 52 ≤ m) (e : Int) : ∃ k : Nat, targetOf m e = e + k := by
  have hlong : 52 ≤ m.log2 := (Nat.le_log2 (by omega)).mpr hm
  exact ⟨(targetOf m e - e).toNat, by rw [targetOf]; omega⟩

/-- What is left of a mantissa has 53 bits at most, and its first bit is set unless the exponent is the smallest. -/
theorem shifted_bits {m k : Nat} {e : Int} (hm : 2 ^ 52 ≤ m) (hk : targetOf m e = e + k) :
    m / 2 ^ k < 2 ^ 53 ∧ (targetOf m e = -1074 ∨ 2 ^ 52 ≤ m / 2 ^ k) := by
  have htarget : targetOf m e = max ((m.log2 : Int) + e - 52) (-1074) := rfl
  constructor
  · have hlt : m < 2 ^ (53 + k) := Nat.lt_log2_self.trans_le (Nat.pow_le_pow_right (by decide) (by omega))
    rw [Nat.pow_add, Nat.mul_comm] at hlt
    exact Nat.div_lt_of_lt_mul hlt
  · rcases (by omega : targetOf m e = -1074 ∨ m.log2 = 52 + k) with h | h
    · exact .inl h
    · have hle : 2 ^ (52 + k) ≤ m := h ▸ Nat.log2_self_le (by omega)
      rw [Nat.pow_add] at hle
      exact .inr ((Nat.le_div_iff_mul_le (Nat.two_pow_pos k)).mpr hle)

/-- A mantissa at its exponent stays what it is. -/
theorem shift_canonical {m : Nat} {e : Int} (hm : m < 2 ^ 53) (he : -1074 ≤ e) :
    shiftToTargetExponent .binary64 m e .exact = (⟨m, false, false⟩, e) := by
  have hlog : m.log2 ≤ 52 := by
    rcases Nat.eq_zero_or_pos m with rfl | hpos
    · simp
    · have := (Nat.log2_lt hpos.ne').mpr hm
      omega
  have hstay : (targetOf m e - e).toNat = 0 := by
    rw [targetOf]
    omega
  rw [shiftToTargetExponent, targetExponent_eq, shiftToExponent, hstay]
  simp [ExtendedMantissa.ofMantissaAndAccuracy, HShiftRight.hShiftRight, Nat.repeat]

/-- A mantissa that was rounded up to 54 bits is shifted by one. -/
theorem shift_carried {e : Int} (he : -1074 ≤ e) :
    shiftToTargetExponent .binary64 (2 ^ 53) e .exact = (⟨2 ^ 52, false, false⟩, e + 1) := by
  have hone : (targetOf (2 ^ 53) e - e).toNat = 1 := by
    rw [targetOf, Nat.log2_two_pow]
    omega
  rw [shiftToTargetExponent, targetExponent_eq, shiftToExponent, hone]
  rfl

/-- Dropping bits and rounding up makes a value larger by one unit of the last place at most. -/
theorem rounded_le {m k r : Nat} {e : Int} (h : r ≤ m / 2 ^ k + 1) :
    (r : Rat) * 2 ^ (e + k) ≤ m * 2 ^ e + 2 ^ (e + k) := by
  have hnat : r * 2 ^ k ≤ m + 2 ^ k := by
    have hdiv := Nat.div_mul_le_self m (2 ^ k)
    calc r * 2 ^ k ≤ (m / 2 ^ k + 1) * 2 ^ k := Nat.mul_le_mul_right _ h
      _ = m / 2 ^ k * 2 ^ k + 2 ^ k := by ring
      _ ≤ m + 2 ^ k := by omega
  have hcast : (r : Rat) * 2 ^ k ≤ m + 2 ^ k := by exact_mod_cast hnat
  have hpow : (0 : Rat) ≤ 2 ^ e := by positivity
  rw [zpow_add₀ (by norm_num), zpow_natCast]
  calc (r : Rat) * (2 ^ e * 2 ^ k) = r * 2 ^ k * 2 ^ e := by ring
    _ ≤ (m + 2 ^ k) * 2 ^ e := mul_le_mul_of_nonneg_right hcast hpow
    _ = m * 2 ^ e + 2 ^ e * 2 ^ k := by ring

/-- What rounding makes of a mantissa that is long enough: zero or a double, whose value is larger by one unit of
the last place at most. -/
theorem round_cases (s : Sign) {m : Nat} {e : Int} (hm : 2 ^ 52 ≤ m) (ht : targetOf m e ≤ 970) :
    roundWithAccuracy .binary64 s m e .exact = .zero s ∨
      ∃ n f h, roundWithAccuracy .binary64 s m e .exact = .finite s n f h ∧ Canonical n f ∧
        (n : Rat) * 2 ^ f ≤ m * 2 ^ e + 2 ^ targetOf m e := by
  obtain ⟨k, hk⟩ := exists_shift hm e
  generalize hem : ExtendedMantissa.ofMantissaAndAccuracy m .exact >>> k = em
  have hfirst : shiftToTargetExponent .binary64 m e .exact = (em, targetOf m e) := by
    have hshift : (targetOf m e - e).toNat = k := by omega
    rw [shiftToTargetExponent, targetExponent_eq, shiftToExponent, hshift, hk, ← hem]
  have hmantissa : em.mantissa = m / 2 ^ k := by
    rw [← hem, mantissa_shiftRight]
    rfl
  obtain ⟨hlow, hhigh⟩ := roundedMantissa_bounds em
  rw [roundWithAccuracy, hfirst]
  dsimp only
  generalize em.roundedMantissa = r at *
  have hvalue : (r : Rat) * 2 ^ targetOf m e ≤ m * 2 ^ e + 2 ^ targetOf m e := by
    rw [hk]
    exact rounded_le (by omega)
  have hleast : -1074 ≤ targetOf m e := le_max_right _ _
  obtain ⟨hbits, hset⟩ := shifted_bits hm hk
  have hnormal : targetOf m e = -1074 ∨ 2 ^ 52 ≤ r := by omega
  rcases (by omega : r < 2 ^ 53 ∨ r = 2 ^ 53) with hr | rfl
  · rw [shift_canonical hr (by omega)]
    by_cases hzero : r = 0
    · exact .inl (dif_pos hzero)
    · exact .inr ⟨r, targetOf m e, Nat.pos_of_ne_zero hzero, dif_neg hzero, ⟨hr, by omega, by omega, hnormal⟩, hvalue⟩
  · -- the carry
    rw [shift_carried (by omega)]
    refine .inr ⟨2 ^ 52, targetOf m e + 1, by decide, rfl, ⟨by decide, by omega, by omega, .inr le_rfl⟩, ?_⟩
    refine le_trans (le_of_eq ?_) hvalue
    rw [zpow_add_one₀ (by norm_num)]
    norm_num
    ring

/-- A value below a power of two has a last place to match. -/
theorem targetOf_le {m : Nat} {e bound : Int} (hm : 0 < m) (hleast : -1022 ≤ bound) (h : (m : Rat) * 2 ^ e ≤ 2 ^ bound) :
    targetOf m e ≤ bound - 52 := by
  have hlog : (2 : Rat) ^ m.log2 ≤ m := by exact_mod_cast Nat.log2_self_le hm.ne'
  have hpow : (2 : Rat) ^ ((m.log2 : Int) + e) ≤ 2 ^ bound := by
    rw [zpow_add₀ (by norm_num), zpow_natCast]
    exact (mul_le_mul_of_nonneg_right hlog (by positivity)).trans h
  have hexp := (zpow_le_zpow_iff_right₀ (by norm_num)).mp hpow
  rw [targetOf]
  omega

theorem unpack_pack_zero (s : Sign) : (Float.Model.pack (.zero s)).unpack = .zero s := by
  cases s <;> rfl

/-- A product of doubles that are not negative, one of them with its first bit set, is larger than the exact product by
one unit of the last place at most. -/
theorem mul_le {x c : Float} {n : Nat} {f bound : Int} {hn : 0 < n} (hx : x.isFinite = true) (hx0 : 0 ≤ value x)
    (hc : c.toModel.unpack = .finite .positive n f hn) (hfirst : 2 ^ 52 ≤ n) (hleast : -1022 ≤ bound) (hgreatest : bound ≤ 1022)
    (hle : value x * value c ≤ 2 ^ bound) :
    (x * c).isFinite = true ∧ 0 ≤ value (x * c) ∧ value (x * c) ≤ value x * value c + 2 ^ (bound - 52) := by
  have hproduct : (x * c).toModel.unpack = (Float.Model.pack (mul .binary64 x.toModel.unpack c.toModel.unpack)).unpack := rfl
  have hunit : (0 : Rat) ≤ 2 ^ (bound - 52) := by positivity
  -- the product is zero or positive
  have hof : ∀ {u : UnpackedFloat}, (x * c).toModel.unpack = u → u.isFinite = true → 0 ≤ valueOf u →
      valueOf u ≤ value x * value c + 2 ^ (bound - 52) →
      (x * c).isFinite = true ∧ 0 ≤ value (x * c) ∧ value (x * c) ≤ value x * value c + 2 ^ (bound - 52) := by
    rintro u rfl hfinite hnonneg hle
    exact ⟨hfinite, hnonneg, hle⟩
  have hvc : value c = n * 2 ^ f := by rw [value, hc, valueOf]
  rcases isFinite_cases hx with ⟨s, hu⟩ | ⟨m, e, hm, hu⟩ | ⟨m, e, hm, hu⟩
  · have hvx : value x = 0 := by
      rw [value, hu]
      rfl
    rw [hu, hc] at hproduct
    refine hof (hproduct.trans (unpack_pack_zero _)) rfl le_rfl ?_
    rw [hvx, zero_mul, zero_add]
    exact hunit
  · have hnegative : value x < 0 := by
      rw [value, hu, valueOf]
      have hpos : (0 : Rat) < m * 2 ^ e := by positivity
      linarith
    exact absurd hx0 (not_le.mpr hnegative)
  · have hvx : value x = m * 2 ^ e := by rw [value, hu, valueOf]
    have hexact : value x * value c = ((m * n : Nat) : Rat) * 2 ^ (e + f) := by
      rw [hvx, hvc, zpow_add₀ (by norm_num)]
      push_cast
      ring
    have hlong : 2 ^ 52 ≤ m * n := hfirst.trans (Nat.le_mul_of_pos_left n hm)
    have htarget := targetOf_le (Nat.mul_pos hm hn) hleast (hexact ▸ hle)
    have hplace : (2 : Rat) ^ targetOf (m * n) (e + f) ≤ 2 ^ (bound - 52) := zpow_le_zpow_right₀ (by norm_num) htarget
    have hround : (x * c).toModel.unpack =
        (Float.Model.pack (roundWithAccuracy .binary64 .positive (m * n) (e + f) .exact)).unpack := by
      rw [hproduct, hu, hc]
      rfl
    rcases round_cases .positive (e := e + f) hlong (by omega) with hzero | ⟨r, g, hr, hfinite, hcanonical, hvalue⟩
    · rw [hzero, unpack_pack_zero] at hround
      refine hof hround rfl le_rfl ?_
      rw [hexact]
      exact add_nonneg (magnitude_nonneg _ _) hunit
    · rw [hfinite, unpack_pack .positive hr hcanonical] at hround
      refine hof hround rfl (magnitude_nonneg r g) ?_
      rw [hexact]
      exact hvalue.trans (by linarith)

end WeatherRelay.Double
