import Storefront.Checkout.BasePrice
import Storefront.Store.Transaction

/-!
# Vouchers on checkouts

* `Tables.checkVoucher`: the conditions of a voucher, in the order in which they are looked at.
* `Snapshot.voucherDiscount`: what a voucher takes off a checkout, if it applies.
* `addVoucher`, `removeVoucher` and `recalculateDiscount`: keep the voucher and the discount of a
  stored checkout.
-/

namespace Storefront

/-- The conditions of a voucher for an order: its minimum price and quantity, one use for each
customer, and staff only. -/
def Tables.checkVoucher (t : Tables) (v : Voucher) (total : Money) (quantity : Nat)
    (email : Option String) (channel : ChannelId) (user : Option User) : Except Error Unit := do
  v.checkMinimumSpent total channel
  v.checkMinimumQuantity quantity
  if v.applyOncePerCustomer && email.any (t.hasUsed v.id) then
    throw (.notApplicable .oncePerCustomer)
  v.checkStaff user

namespace Snapshot

/-- The sale price of each single item of some lines. -/
def itemPrices (s : Snapshot) (lines : List CheckoutLine) : Except Error (List Money) := do
  let prices ← lines.mapM fun l => do
    return List.replicate l.quantity (← l.unitPrice s.channel.id s.sales).withSale
  return prices.flatten

/-- The lines that a voucher selects. -/
def selectedLines (s : Snapshot) (v : Voucher) : List CheckoutLine :=
  s.lines.filter (·.isSelectedBy v)

/-- What a voucher takes off the shipping of a checkout. -/
def shippingDiscount (s : Snapshot) (v : Voucher) : Except Error Money := do
  unless s.shippingRequired do throw (.notApplicable .shippingNotRequired)
  if s.delivery.price?.isNone then throw (.notApplicable .deliveryNotSelected)
  let country := s.checkout.shippingAddress.map (·.country)
  unless v.countries.isEmpty || country.any v.countries.contains do
    throw (.notApplicable .countryNotCovered)
  v.amountFor s.deliveryPrice s.channel.id

/-- What a voucher takes off a checkout, or why it does not apply. -/
def voucherDiscount (s : Snapshot) (t : Tables) (v : Voucher) : Except Error Money := do
  let subtotal ← s.subtotalWithSales
  let channel := s.channel.id
  t.checkVoucher v subtotal s.checkout.quantity s.customerEmail channel s.user
  match v.type with
  | .entireOrder =>
    if v.applyOncePerOrder then
      v.productsDiscount (← s.itemPrices s.lines) channel s.checkout.currency
    else v.amountFor subtotal channel
  | .shipping => s.shippingDiscount v
  | .specificProduct =>
    v.productsDiscount (← s.itemPrices (s.selectedLines v)) channel s.checkout.currency

/-- The snapshot with another voucher and discount kept with the checkout. -/
def withVoucher (s : Snapshot) (v : Option Voucher) (code name : Option String)
    (discount : Money) : Snapshot :=
  { s with
    voucher := v
    checkout := { s.checkout with voucherCode := code, discountName := name, discount } }

/-- The discount that is kept with a checkout for what a voucher takes off. All but the discount of
a shipping voucher are limited by the price of the lines. -/
private def limitedDiscount (s : Snapshot) (v : Voucher) (discount : Money) :
    Except Error Money := do
  if v.type = .shipping then return discount
  return discount.min (← s.subtotalWithSales)

end Snapshot

private def saveSnapshot (s : Snapshot) : Transaction Snapshot := do
  Transaction.saveCheckout s.checkout
  return s

/-- Puts a voucher on a checkout and keeps its discount. -/
def addVoucher (s : Snapshot) (v : Voucher) : Transaction Snapshot := do
  let discount ← s.voucherDiscount (← Transaction.tables) v
  saveSnapshot (s.withVoucher (some v) (some v.code) v.name discount)

/-- Takes the voucher off a checkout. -/
def removeVoucher (s : Snapshot) : Transaction Snapshot :=
  saveSnapshot (s.withVoucher none none none (Money.zero s.checkout.currency))

/-- Brings the discount of a checkout up to date. A voucher that no longer applies is taken off. -/
def recalculateDiscount (s : Snapshot) : Transaction Snapshot := do
  match s.voucher with
  | none =>
    saveSnapshot (s.withVoucher none s.checkout.voucherCode none (Money.zero s.checkout.currency))
  | some v =>
    match s.voucherDiscount (← Transaction.tables) v with
    | .error (.notApplicable _) => removeVoucher s
    | .error e => throw e
    | .ok discount =>
      let discount ← s.limitedDiscount v discount
      saveSnapshot (s.withVoucher (some v) s.checkout.voucherCode v.name discount)

end Storefront
