import Mathlib.Algebra.Order.Floor.Semiring
import Mathlib.Data.Rat.Floor
import WeatherRelay.Decimal.Basic
import WeatherRelay.Decimal.Reading

/-!
# Numbers in columns

A natural that is written in columns with zeros before it fills them exactly, with digits only, and is read
back as what it was (`fills_padLeft`); a count of hundredths fills the columns before and behind a point in the
same way (`fixed_columns`).
-/

namespace WeatherRelay.Decimal

/-- That a text is a natural in columns of a width: so many digits, which read as the natural. -/
structure Fills (width n : Nat) (text : List Char) : Prop where
  length : text.length = width
  digits : ∀ c ∈ text, c.isDigit = true
  value : Nat.ofDigitChars 10 text 0 = n

/-! ## Columns of digits -/

theorem isDigit_of_mem_padLeft {width n : Nat} {c : Char} (h : c ∈ padLeft width '0' (digits n)) : c.isDigit = true := by
  rcases List.mem_append.mp h with h | h
  · obtain rfl := List.eq_of_mem_replicate h
    rfl
  · exact Nat.isDigit_of_mem_toDigits (by decide) (by decide) h

theorem ofDigitChars_padLeft (width n : Nat) : Nat.ofDigitChars 10 (padLeft width '0' (digits n)) 0 = n := by
  rw [padLeft, Nat.ofDigitChars_append, Nat.ofDigitChars_replicate_zero, Nat.mul_zero]
  exact Nat.ofDigitChars_ten_toDigits

/-- A fill leaves no more columns than there should be, unless the text is longer. -/
theorem length_padLeft (width : Nat) (fill : Char) (text : List Char) :
    (padLeft width fill text).length = max width text.length := by
  simp only [padLeft, List.length_append, List.length_replicate]
  omega

/-- A natural has room in columns exactly if it is below the power of ten. -/
theorem length_digits_le_iff {width : Nat} (hwidth : 0 < width) (n : Nat) : (digits n).length ≤ width ↔ n < 10 ^ width :=
  Nat.length_toDigits_le_iff (by decide) hwidth

/-- A natural that has room fills its columns. -/
theorem fills_padLeft {width n : Nat} (hwidth : 0 < width) (h : n < 10 ^ width) :
    Fills width n (padLeft width '0' (digits n)) where
  length := by
    have hlength := (length_digits_le_iff hwidth n).mpr h
    rw [length_padLeft]
    omega
  digits _ := isDigit_of_mem_padLeft
  value := ofDigitChars_padLeft width n

/-- A column of a natural is its digits, filled up. -/
theorem column_natural (width n : Nat) : column width n = padLeft width '0' (digits n) := by
  have hsign : ¬(n : Int) < 0 := by omega
  simp [column, sign, hsign]

/-- A column of a negative number is a minus sign before a column of its magnitude. -/
theorem column_negative (width n : Nat) (h : 0 < n) : column width (-n) = '-' :: padLeft (width - 1) '0' (digits n) := by
  have hsign : -(n : Int) < 0 := by omega
  rw [column, sign, decide_eq_true hsign, if_pos rfl, Int.natAbs_neg, Int.natAbs_natCast]
  rfl

/-- Filling up twice is filling up once to the larger width. -/
theorem padLeft_padLeft {small large : Nat} (h : small ≤ large) (fill : Char) (text : List Char) :
    padLeft large fill (padLeft small fill text) = padLeft large fill text := by
  simp only [padLeft, List.length_append, List.length_replicate, ← List.append_assoc, List.replicate_append_replicate]
  congr 2
  omega

/-- The first columns and the rest are read apart. -/
theorem Fills.split {width places n : Nat} {text : List Char} (h : Fills (width + places) n text) :
    ∃ front back, Fills width front (text.take width) ∧ Fills places back (text.drop width) ∧ n = 10 ^ places * front + back := by
  have htake : (text.take width).length = width := by
    rw [List.length_take, h.length]
    omega
  have hdrop : (text.drop width).length = places := by
    rw [List.length_drop, h.length]
    omega
  refine ⟨_, _, ⟨htake, fun c hc => h.digits c (List.mem_of_mem_take hc), rfl⟩,
    ⟨hdrop, fun c hc => h.digits c (List.mem_of_mem_drop hc), rfl⟩, ?_⟩
  have hvalue := h.value
  rw [← List.take_append_drop width text, Nat.ofDigitChars_append, Nat.ofDigitChars_eq_ofDigitChars_zero, hdrop] at hvalue
  exact hvalue.symm

/-! ## Reading -/

theorem digitIn?_of_isDigit {c : Char} (h : c.isDigit = true) : digitIn? 10 c = some (c.toNat - '0'.toNat) := by
  have hbetween : '0' ≤ c ∧ c ≤ '9' := by
    rw [Char.isDigit, Bool.and_eq_true, decide_eq_true_iff, decide_eq_true_iff] at h
    exact h
  have hlow : '0'.toNat ≤ c.toNat := hbetween.1
  have hhigh : c.toNat ≤ '9'.toNat := hbetween.2
  have hvalue : c.toNat - '0'.toNat < 10 := by
    simp only [Char.reduceToNat] at hlow hhigh ⊢
    omega
  simp only [digitIn?, if_pos hbetween, if_pos hvalue]

/-- Digits are read. -/
theorem natural?_of_digits {text : List Char} (hsome : text ≠ []) (h : ∀ c ∈ text, c.isDigit = true) :
    natural? 10 text = some (Nat.ofDigitChars 10 text 0) := by
  have hfold : ∀ n, text.foldlM (fun n c => (digitIn? 10 c).map (n * 10 + ·)) n = some (Nat.ofDigitChars 10 text n) := by
    clear hsome
    induction text with
    | nil => intro n; rfl
    | cons c rest ih =>
      intro n
      rw [List.foldlM_cons, digitIn?_of_isDigit (h c List.mem_cons_self), Nat.ofDigitChars_cons, Nat.mul_comm 10 n]
      exact ih (fun d hd => h d (List.mem_cons_of_mem _ hd)) _
  rw [natural?, if_neg (by simpa using hsome)]
  exact hfold 0

theorem isDigit_of_digitIn? {c : Char} {v : Nat} (h : digitIn? 10 c = some v) : c.isDigit = true := by
  rw [Char.isDigit, Bool.and_eq_true, decide_eq_true_iff, decide_eq_true_iff]
  by_contra hother
  have hnot : ¬('0' ≤ c ∧ c ≤ '9') := hother
  simp only [digitIn?, if_neg hnot] at h
  -- a letter counts ten at least
  have hten : 10 ≤ if 'a' ≤ c ∧ c ≤ 'z' then c.toNat - 'a'.toNat + 10
      else if 'A' ≤ c ∧ c ≤ 'Z' then c.toNat - 'A'.toNat + 10 else 36 := by
    split
    · omega
    · split <;> omega
  rw [if_neg hten.not_gt] at h
  nomatch h

/-- Digits are all that is read. -/
theorem digits_of_natural? {text : List Char} {n : Nat} (h : natural? 10 text = some n) :
    text ≠ [] ∧ ∀ c ∈ text, c.isDigit = true := by
  unfold natural? at h
  split at h
  · nomatch h
  rename_i hsome
  refine ⟨by simpa using hsome, ?_⟩
  clear hsome
  revert h
  generalize 0 = start
  induction text generalizing start with
  | nil => exact fun _ _ hc => nomatch hc
  | cons c rest ih =>
    intro h
    rw [List.foldlM_cons] at h
    obtain ⟨next, hnext, hrest⟩ := Option.bind_eq_some_iff.mp h
    obtain ⟨v, hv, -⟩ := Option.map_eq_some_iff.mp hnext
    exact List.forall_mem_cons.mpr ⟨isDigit_of_digitIn? hv, ih next hrest⟩

/-- What is read as a natural up to a bound: digits, and their value. -/
theorem bounded?_eq_some_iff {bound n : Nat} {text : List Char} :
    bounded? 10 bound text = some n ↔
      text ≠ [] ∧ (∀ c ∈ text, c.isDigit = true) ∧ Nat.ofDigitChars 10 text 0 = n ∧ n ≤ bound := by
  rw [bounded?, Option.filter_eq_some_iff, decide_eq_true_iff]
  constructor
  · rintro ⟨hread, hbound⟩
    obtain ⟨hsome, hdigits⟩ := digits_of_natural? hread
    rw [natural?_of_digits hsome hdigits] at hread
    exact ⟨hsome, hdigits, Option.some.inj hread, hbound⟩
  · rintro ⟨hsome, hdigits, rfl, hbound⟩
    exact ⟨natural?_of_digits hsome hdigits, hbound⟩

theorem Fills.natural? {width n : Nat} {text : List Char} (h : Fills width n text) (hwidth : 0 < width) :
    natural? 10 text = some n := by
  have hsome : text ≠ [] := List.length_pos_iff.mp (h.length ▸ hwidth)
  rw [natural?_of_digits hsome h.digits, h.value]

/-- Reads a whole number, which may have a minus sign. -/
def whole? : List Char → Option Int
  | '-' :: ds => (natural? 10 ds).map fun n : Nat => -(n : Int)
  | ds => (natural? 10 ds).map fun n : Nat => (n : Int)

theorem whole?_of_natural {text : List Char} {n : Nat} (hdigits : ∀ c ∈ text, c.isDigit = true)
    (h : natural? 10 text = some n) :
    whole? text = some (n : Int) := by
  unfold whole?
  split
  case h_1 ds => exact absurd (hdigits '-' List.mem_cons_self) (by decide)
  case h_2 => rw [h, Option.map_some]

/-- A whole number of which the sign and the digits have room fills its columns, and is read back. -/
theorem column_fits {width : Nat} {n : Int} (hwidth : 1 < width) (hlow : -(10 ^ (width - 1) : Nat) < n)
    (hhigh : n < (10 ^ width : Nat)) : (column width n).length = width ∧ whole? (column width n) = some n := by
  rcases Int.le_total 0 n with h | h
  · obtain ⟨k, rfl⟩ := Int.eq_ofNat_of_zero_le h
    have hfills := fills_padLeft (by omega) (Int.ofNat_lt.mp hhigh)
    rw [column_natural]
    exact ⟨hfills.length, whole?_of_natural hfills.digits (hfills.natural? (by omega))⟩
  · obtain ⟨k, rfl⟩ := Int.exists_eq_neg_ofNat h
    rcases Nat.eq_zero_or_pos k with rfl | hk
    · have hfills := @fills_padLeft width 0 (by omega) (Nat.pow_pos (by decide))
      have hzero : column width (-((0 : Nat) : Int)) = padLeft width '0' (digits 0) := column_natural width 0
      rw [hzero]
      exact ⟨hfills.length, whole?_of_natural hfills.digits (hfills.natural? (by omega))⟩
    · have hfills := @fills_padLeft (width - 1) k (by omega) (by omega)
      rw [column_negative width k hk]
      refine ⟨by rw [List.length_cons, hfills.length]; omega, ?_⟩
      rw [whole?, hfills.natural? (by omega), Option.map_some]

/-! ## Columns with a point -/

theorem roundDiv_mul (n : Nat) {den : Nat} (h : 0 < den) : roundDiv (n * den) den = n := by
  simp [roundDiv, Nat.mul_div_cancel n h, h]

/-- A fill before a number with places goes into its whole columns. -/
theorem padLeft_pointed {width places n : Nat} (hwidth : 0 < width) (hplaces : 0 < places) (h : n < 10 ^ (width + places)) :
    padLeft (width + 1 + places) '0' (pointed places n) =
      (padLeft (width + places) '0' (digits n)).take width ++
        '.' :: (padLeft (width + places) '0' (digits n)).drop width := by
  have hroom : (digits n).length ≤ width + places := (length_digits_le_iff (by omega) n).mpr h
  -- the number with at least one whole column
  generalize hall : padLeft (places + 1) '0' (digits n) = all
  have hlength : all.length = max (places + 1) (digits n).length := by rw [← hall, length_padLeft]
  have hpointed : pointed places n = all.take (all.length - places) ++ '.' :: all.drop (all.length - places) := by
    rw [← hall]
    simp [pointed, Nat.pos_iff_ne_zero.mp hplaces]
  have hcount : (pointed places n).length = all.length + 1 := by
    rw [hpointed, List.length_append, List.length_cons, List.length_take, List.length_drop]
    omega
  generalize hzeros : List.replicate (width + places - all.length) '0' = zeros
  have hfew : zeros.length = width + places - all.length := by rw [← hzeros, List.length_replicate]
  have hfull : padLeft (width + places) '0' (digits n) = zeros ++ all := by
    rw [← padLeft_padLeft (by omega : places + 1 ≤ width + places), hall, padLeft, hzeros]
  have hfill : padLeft (width + 1 + places) '0' (pointed places n) = zeros ++ pointed places n := by
    rw [padLeft, hcount, ← hzeros]
    congr 2
    omega
  have hcut : width - zeros.length = all.length - places := by omega
  have htake : (zeros ++ all).take width = zeros ++ all.take (all.length - places) := by
    rw [List.take_append, List.take_of_length_le (by omega), hcut]
  have hdrop : (zeros ++ all).drop width = all.drop (all.length - places) := by
    rw [List.drop_append, List.drop_of_length_le (by omega), hcut, List.nil_append]
  rw [hfill, hfull, htake, hdrop, hpointed, List.append_assoc]

/-- A value that is a count of the smallest unit of its places fills the columns before and behind the point. -/
theorem fixedZeros_eq {width places n num den : Nat} (hwidth : 0 < width) (hplaces : 0 < places) (hden : 0 < den)
    (hvalue : num * 10 ^ places = n * den) (h : n < 10 ^ (width + places)) :
    ∃ front back whole part, (Exact.finite false num den).fixedZeros (width + 1 + places) places = front ++ '.' :: back ∧
      Fills width whole front ∧ Fills places part back ∧ n = 10 ^ places * whole + part := by
  obtain ⟨whole, part, hfront, hback, hparts⟩ := (fills_padLeft (by omega) h).split
  have hround : roundDiv (num * tens places) den = n := by
    rw [show tens places = 10 ^ places from rfl, hvalue, roundDiv_mul n hden]
  refine ⟨_, _, whole, part, ?_, hfront, hback, hparts⟩
  rw [← padLeft_pointed hwidth hplaces h, ← hround]
  rfl

end WeatherRelay.Decimal
