/-!
# Quantities

Items are counted in whole numbers of at most 32 bits. A quantity itself is a natural number, and
no count wraps around: where quantities are added up, the sum is either exact or stops at the
largest quantity.

* `Quantity.total`: the exact sum of quantities, which may be more than the largest one.
* `Quantity.add`: a sum that stops at the largest quantity.
-/

namespace Storefront.Quantity

/-- The largest quantity, which is `2^32 - 1`. -/
def largest : Nat := 4294967295

/-- The sum of two quantities, or the largest quantity. -/
def add (a b : Nat) : Nat := min (a + b) largest

/-- The sum of quantities, of any size. -/
def total : List Nat → Nat
  | [] => 0
  | quantity :: rest => quantity + total rest

@[simp] theorem total_nil : total [] = 0 := rfl

@[simp] theorem total_cons (quantity : Nat) (rest : List Nat) :
    total (quantity :: rest) = quantity + total rest := rfl

@[simp] theorem total_append (a b : List Nat) : total (a ++ b) = total a + total b := by
  induction a with
  | nil => simp
  | cons quantity rest ih => simp [ih, Nat.add_assoc]

end Storefront.Quantity
