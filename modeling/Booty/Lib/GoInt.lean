import Mathlib

namespace Booty.Lib

/-!
# Go's `int64`, `time.Duration` and `time.Time`

Signed machine integers are `Int` values; `wrap64` is the reduction every `int64` operation
and conversion applies to its exact result.  A `Duration` counts nanoseconds and a `Time`
counts nanoseconds since Go's zero time, so `IsZero` is `t = 0`; `Time.sub` saturates like
`time.Time.Sub`.
-/

/-- The `int64` value of an exact integer result (two's complement). -/
def wrap64 (x : Int) : Int := Int.bmod x (2 ^ 64)

/-- The exact integer `x` is an `int64` value. -/
def InInt64 (x : Int) : Prop := -2 ^ 63 ≤ x ∧ x < 2 ^ 63

instance (x : Int) : Decidable (InInt64 x) := inferInstanceAs (Decidable (_ ∧ _))

/-- Without overflow the machine result is the exact one. -/
theorem wrap64_of_inInt64 {x : Int} (h : InInt64 x) : wrap64 x = x := by
  obtain ⟨hlo, hhi⟩ := h
  apply Int.bmod_eq_of_le
  · norm_num; omega
  · norm_num; omega

/-- A `uint64` value whose `int64` conversion is not negative is converted exactly. -/
theorem wrap64_of_nonneg {n : Nat} (hn : n < 2 ^ 64) (h : 0 ≤ wrap64 n) :
    n < 2 ^ 63 ∧ wrap64 n = n := by
  by_cases hlt : n < 2 ^ 63
  · exact ⟨hlt, wrap64_of_inInt64 ⟨by omega, by omega⟩⟩
  · -- Otherwise the conversion subtracts `2 ^ 64`.
    exfalso
    have hw : wrap64 ((n : Int) - 2 ^ 64) = wrap64 n := by
      have := Int.sub_mul_bmod_self_right (n : Int) 1 (2 ^ 64)
      simpa [wrap64] using this
    rw [← hw, wrap64_of_inInt64 ⟨by omega, by omega⟩] at h
    omega

/-- A duration in nanoseconds. -/
abbrev Duration := Int

/-- An instant in nanoseconds since Go's zero time. -/
abbrev Time := Int

/-- `time.Microsecond`. -/
def microsecond : Duration := 1000

/-- `time.Millisecond`. -/
def millisecond : Duration := 1000 * microsecond

/-- `time.Second`. -/
def second : Duration := 1000 * millisecond

/-- `t.Sub(u)`: the difference, saturated to the range of a duration. -/
def Time.sub (t u : Time) : Duration := max (-2 ^ 63) (min (2 ^ 63 - 1) (t - u))

end Booty.Lib
