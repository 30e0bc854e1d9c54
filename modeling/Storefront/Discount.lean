import Storefront.Money.Arithmetic
import Storefront.Text.Named

/-!
# Discounts

A discount takes a fixed amount or a part off a price, and never leaves less than nothing.
-/

namespace Storefront

inductive DiscountType where
  | fixed
  | percentage
deriving DecidableEq, Repr, Inhabited

instance : Named DiscountType where
  names := [("fixed", .fixed), ("percentage", .percentage)]

inductive Discount where
  | fixed (amount : Money)
  /-- The part taken off, where one is the whole price. -/
  | percentage (fraction : Decimal)
deriving DecidableEq

namespace Discount

/-- The discount of a value, which is an amount or a number of percent. -/
def ofValue (type : DiscountType) (value : Decimal) (currency : Currency) :
    Except Error Discount :=
  match type with
  | .fixed => .ok (fixed ⟨value, currency⟩)
  | .percentage => (orFail .outOfRange (value.div? 100)).map percentage

/-- The price less a fixed amount. -/
def applyFixed (price amount : Money) : Except Error Money := do
  return (← price.sub amount).floorAtZero

/-- The price less a part of it. -/
def applyPercentage (price : Money) (fraction : Decimal) : Except Error Money := do
  let part ← orFail .outOfRange (fraction.mul? price.amount)
  let left ← orFail .outOfRange (price.amount.sub? part)
  return Money.floorAtZero ⟨left, price.currency⟩

/-- The price after the discount. -/
def apply (d : Discount) (price : Money) : Except Error Money :=
  match d with
  | fixed amount => applyFixed price amount
  | percentage fraction => applyPercentage price fraction

end Discount

end Storefront
