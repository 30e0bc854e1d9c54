import Storefront.Checkout.Snapshot

/-!
# Prices of a checkout before tax

* `Snapshot.deliveryPrice`: the price of the chosen delivery.
* `Snapshot.discount`: what comes off the total. Line-level vouchers have come off the lines.
* `baseTotal`: lines, delivery and discount together, never below zero.
-/

namespace Storefront

/-- The total of lines and delivery less a discount. -/
def baseTotal (subtotal delivery discount : Money) : Except Error Money := do
  return (← (← subtotal.add delivery).sub discount).floorAtZero

namespace Snapshot

/-- The price of the lines, with sales and vouchers. -/
def subtotal (s : Snapshot) : Except Error Money :=
  CheckoutLine.subtotal s.lines s.channel.id s.sales s.checkout.currency

/-- The price of the lines without discounts. -/
def undiscountedSubtotal (s : Snapshot) : Except Error Money := do
  let totals ← s.lines.mapM fun l => do return (← l.totalPrice s.channel.id []).undiscounted
  Money.sum s.checkout.currency totals

/-- The price of the lines with sales only. -/
def subtotalWithSales (s : Snapshot) : Except Error Money := do
  let totals ← s.lines.mapM fun l => do return (← l.totalPrice s.channel.id s.sales).withSale
  Money.sum s.checkout.currency totals

/-- The price of the chosen delivery, which is nothing where nothing has to be shipped. -/
def deliveryPrice (s : Snapshot) : Money :=
  match s.delivery.price? with
  | some price => if s.shippingRequired then price.quantize else Money.zero s.checkout.currency
  | none => Money.zero s.checkout.currency

/-- What comes off the total: the discount kept with the checkout, unless the voucher works on
lines. -/
def discount (s : Snapshot) : Money :=
  if s.voucher.any (·.isLineLevel) then Money.zero s.checkout.currency else s.checkout.discount

end Snapshot

end Storefront
