import Mathlib.Order.Interval.Set.Defs
import WeatherRelay.Proofs.Rationals
import WeatherRelay.Wind

/-!
# The nearest point of the compass

The sectors of the sixteen points, each reaching half way to the points beside it, cover the circle without overlap.
Over exact numbers the point that is named for a direction is the one in whose sector it lies, whatever full turns it is
off (`cardinal_is_nearest_point`). The sector of north lies on both sides of the zero: what is less than half a sector
below a full turn is counted to a seventeenth point, which is the first one again (`inSector_index`).
-/

namespace WeatherRelay.Compass

/-- That a direction is in the sector of a point, up to full turns: from half way to the point before, up to less than
half way to the next one. -/
def InSector (d : Rat) (i : Nat) : Prop :=
  ∃ x ∈ Set.Ico (22.5 * i - 11.25 : Rat) (22.5 * i + 11.25), ∃ turns : Int, d = x + 360 * turns

/-- Every index, also one of a double, is one of the table. -/
theorem index_lt {α : Type} [Scalar α] (d : α) : index d < points.length := Nat.mod_lt _ (by decide)

/-- Over exact numbers an index is a count of whole sectors, the first of which begins half a sector below north. -/
theorem index_eq (d : Rat) : index d = ⌊Scalar.wrap d 360 / 22.5 + 1 / 2⌋₊ % 16 := by
  obtain ⟨-, hlow, hhigh⟩ := Scalar.wrap_spec (by decide : 0 < 360) d
  have hsectors : 0 ≤ Scalar.wrap d 360 / 22.5 + 1 / 2 := by positivity
  have hfew : ⌊Scalar.wrap d 360 / 22.5 + 1 / 2⌋₊ ≤ Word.maxNat64 := by
    refine (Nat.floor_le_of_le (n := 17) ?_).trans (by decide)
    norm_num at hhigh ⊢
    linarith
  have hhalf : (0.5 : Rat) = 1 / 2 := by norm_num
  show (Scalar.truncate 0 Word.maxNat64 (Scalar.wrap d 360 / 22.5 + 0.5 : Rat)).toNat % 16 = _
  rw [hhalf, Scalar.truncate_eq_floor hsectors hfew, Int.toNat_natCast]

/-- A direction is in the sector of its index. -/
theorem inSector_index (d : Rat) : InSector d (index d) := by
  obtain ⟨hwrap, hlow, hhigh⟩ := Scalar.wrap_spec (by decide : 0 < 360) d
  generalize hrest : Scalar.wrap d 360 = rest at hwrap hlow hhigh
  have hsectors : 0 ≤ rest / 22.5 + 1 / 2 := by positivity
  have hbelow := Nat.floor_le hsectors
  have habove := Nat.lt_floor_add_one (rest / 22.5 + 1 / 2)
  rw [index_eq, hrest]
  generalize ⌊rest / 22.5 + 1 / 2⌋₊ = n at hbelow habove
  norm_num at hwrap hhigh hbelow habove
  have hn : n < 17 := by
    have hcast : (n : Rat) < 17 := by linarith
    exact_mod_cast hcast
  rcases Nat.lt_succ_iff_lt_or_eq.mp hn with hn | rfl
  · rw [Nat.mod_eq_of_lt hn]
    refine ⟨rest, ⟨?_, ?_⟩, ⌊d / 360⌋, ?_⟩
    · norm_num
      linarith
    · norm_num
      linarith
    · linarith
  · -- the last half of the sector of north, a full turn on
    refine ⟨rest - 360, ⟨?_, ?_⟩, ⌊d / 360⌋ + 1, ?_⟩
    · norm_num at hbelow ⊢
      linarith
    · norm_num
      linarith
    · push_cast
      linarith

/-- No direction is in the sectors of two points. -/
theorem InSector.unique {d : Rat} {i j : Nat} (hi : InSector d i) (hj : InSector d j) (hi16 : i < 16) (hj16 : j < 16) :
    i = j := by
  obtain ⟨x, ⟨hxlow, hxhigh⟩, s, hx⟩ := hi
  obtain ⟨y, ⟨hylow, hyhigh⟩, t, hy⟩ := hj
  norm_num at hxlow hxhigh hylow hyhigh
  -- two points are whole sectors apart, and here less than one
  have hless : (i - j + 16 * (s - t) : Int) < 1 := by
    have hcast : (i - j + 16 * (s - t) : Rat) < 1 := by linarith
    exact_mod_cast hcast
  have hmore : -1 < (i - j + 16 * (s - t) : Int) := by
    have hcast : (-1 : Rat) < i - j + 16 * (s - t) := by linarith
    exact_mod_cast hcast
  omega

/-- Full turns change no sector. -/
theorem InSector.add_turns {d : Rat} {i : Nat} (h : InSector d i) (k : Int) : InSector (d + 360 * k) i := by
  obtain ⟨x, hx, turns, rfl⟩ := h
  refine ⟨x, hx, turns + k, ?_⟩
  push_cast
  linarith

theorem index_add_turns (d : Rat) (k : Int) : index (d + 360 * k) = index d :=
  (inSector_index _).unique ((inSector_index d).add_turns k) (index_lt _) (index_lt _)

/-- A direction is named for the nearest of the sixteen points. Over exact numbers there is just one point in whose
sector the direction is, up to full turns, also where it is negative or beyond a turn; its place in the table, which has
one for each point, is the index, and its name is given. Full turns change no name. -/
theorem cardinal_is_nearest_point (d : Rat) :
    (∃ i, (i < 16 ∧ InSector d i) ∧ (∀ j, j < 16 ∧ InSector d j → j = i) ∧ index d = i ∧ points[i]? = some (cardinal d)) ∧
      points.length = 16 ∧ ∀ k : Int, cardinal (d + 360 * k) = cardinal d := by
  refine ⟨⟨index d, ⟨index_lt d, inSector_index d⟩, ?_, rfl, ?_⟩, rfl, ?_⟩
  · rintro j ⟨hj, hsector⟩
    exact hsector.unique (inSector_index d) hj (index_lt d)
  · rw [cardinal, List.getD_eq_getElem?_getD, List.getElem?_eq_getElem (index_lt d), Option.getD_some]
  · intro k
    rw [cardinal, index_add_turns]
    rfl

/-- Half way between two points the later one is named, also where that is north. -/
example : [-371.25, -11.25, 11.25, 348.75].map (cardinal (α := Rat)) = ["N", "N", "NNE", "N"] := by decide +kernel

end WeatherRelay.Compass
