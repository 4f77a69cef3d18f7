/-!
# Machine words

Their bounds, and what becomes of a result that is beyond them: a release build goes on with one that was wrapped
around, and a build with overflow checks panics.
-/

namespace WeatherRelay

/-- A computation that may panic: its value, or the message of the panic, if it carries a text. -/
abbrev Unwinding (α : Type) := Except (Option String) α

namespace Word

/-- The largest natural of 32 bits. -/
def maxNat32 : Nat := 4294967295

/-- The largest natural of 64 bits. -/
def maxNat64 : Nat := 18446744073709551615

/-- The smallest integer of 32 bits. -/
def minInt32 : Int := -2147483648

/-- The largest integer of 32 bits. -/
def maxInt32 : Int := 2147483647

/-- The smallest integer of 64 bits. -/
def minInt64 : Int := -9223372036854775808

/-- The largest integer of 64 bits. -/
def maxInt64 : Int := 9223372036854775807

/-- That an integer is one of 64 bits. -/
def Fits64 (n : Int) : Prop := minInt64 ≤ n ∧ n ≤ maxInt64

instance (n : Int) : Decidable (Fits64 n) := inferInstanceAs (Decidable (_ ∧ _))

/-- The integer of 64 bits that another one is taken for when it does not fit. -/
def wrap64 (n : Int) : Int := n.bmod 18446744073709551616

theorem wrap64_of_fits {n : Int} (h : Fits64 n) : wrap64 n = n := by
  obtain ⟨hlo, hhi⟩ := h
  rw [minInt64] at hlo
  rw [maxInt64] at hhi
  exact Int.bmod_eq_of_le (by omega) (by omega)

/-- The message of a panic about a difference that does not fit. -/
def overflow : Option String := some "attempt to subtract with overflow"

/-- A difference of integers of 64 bits in a build with overflow checks. -/
def checkedSub (a b : Int64) : Unwinding Int64 := if Fits64 (a.toInt - b.toInt) then .ok (a - b) else .error overflow

end Word

end WeatherRelay
