import Mathlib.Algebra.Order.Group.Unbundled.Int
import Mathlib.Tactic.Linarith

/-!
# Machine integer arithmetic on unbounded numbers

A fixed-width value is the natural number or integer it denotes. The operations
below name the overflow behaviour that a program asks for: saturate at the end
of the range or wrap around it.
-/
namespace EmbeddedSdk.MachineInt

/-- Largest value of an unsigned 32-bit integer. -/
def u32Max : ℕ := 4294967295

/-- Smallest value of a signed 32-bit integer. -/
def i32Min : ℤ := -2147483648

/-- Largest value of a signed 32-bit integer. -/
def i32Max : ℤ := 2147483647

/-- Unsigned addition that stops at `top`. -/
def saturatingAdd (top a b : ℕ) : ℕ := min (a + b) top

/-- Signed addition that stops at both ends of the range. -/
def saturatingAddInt (lo hi a b : ℤ) : ℤ := max lo (min hi (a + b))

/-- Unsigned multiplication that stops at `top`. -/
def saturatingMul (top a b : ℕ) : ℕ := min (a * b) top

/-- Unsigned addition with overflow checks: it panics beyond `top`. -/
def checkedAdd (top a b : ℕ) : Option ℕ := if a + b ≤ top then some (a + b) else none

/-- The remainder, which panics for a zero divisor. -/
def checkedRem (a b : ℕ) : Option ℕ := if b = 0 then none else some (a % b)

/-- Unsigned 32-bit addition that wraps around. -/
def wrappingAddU32 (a b : ℕ) : ℕ := (a + b) % 4294967296

/-- A counter that saturates at every increment is the saturated total. -/
theorem saturatingAdd_min (top n k : ℕ) :
    saturatingAdd top (min n top) k = min (n + k) top := by
  simp only [saturatingAdd]
  omega

theorem saturatingAdd_of_le {top a b : ℕ} (h : a + b ≤ top) : saturatingAdd top a b = a + b :=
  min_eq_left h

theorem saturatingAddInt_of_mem {lo hi a b : ℤ} (hl : lo ≤ a + b) (hh : a + b ≤ hi) :
    saturatingAddInt lo hi a b = a + b := by
  simp only [saturatingAddInt, min_eq_right hh, max_eq_right hl]

theorem checkedAdd_of_le {top a b : ℕ} (h : a + b ≤ top) : checkedAdd top a b = some (a + b) :=
  if_pos h

theorem checkedRem_of_pos {b : ℕ} (a : ℕ) (h : 0 < b) : checkedRem a b = some (a % b) :=
  if_neg h.ne'

theorem wrappingAddU32_of_lt {a b : ℕ} (h : a + b < 4294967296) : wrappingAddU32 a b = a + b :=
  Nat.mod_eq_of_lt h

end EmbeddedSdk.MachineInt
