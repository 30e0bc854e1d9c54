/-!
# Powers of ten

A decimal point is shifted by powers of ten.

* `pow10_add`: two shifts are one shift by the sum.
* `pow10_pos`, `pow10_le_pow10`: powers of ten are positive and grow with the exponent.
-/

namespace Storefront

/-- Ten to a power. -/
def pow10 (n : Nat) : Nat := Nat.pow 10 n

@[simp] theorem pow10_zero : pow10 0 = 1 := rfl

theorem pow10_succ (n : Nat) : pow10 (n + 1) = pow10 n * 10 := rfl

theorem pow10_add (m n : Nat) : pow10 (m + n) = pow10 m * pow10 n := Nat.pow_add 10 m n

theorem pow10_pos (n : Nat) : 0 < pow10 n := Nat.pow_pos (by decide)

theorem pow10_le_pow10 {m n : Nat} (h : m ≤ n) : pow10 m ≤ pow10 n :=
  Nat.pow_le_pow_right (by decide) h

end Storefront
