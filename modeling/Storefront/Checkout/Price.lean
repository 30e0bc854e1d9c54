import Storefront.Checkout.BasePrice
import Storefront.Tax

/-!
# Prices of a checkout with tax

The prices before tax, each put through the chain of tax providers.
-/

namespace Storefront

namespace Snapshot

/-- The total of a line. -/
def lineTotal (s : Snapshot) (chain : TaxChain) (l : CheckoutLine) : Except Error Taxed := do
  let base ← l.totalPrice s.channel.id s.sales
  chain.checkoutLineTotal s l (.untaxed base.withDiscounts)

/-- The price of one item of a line. -/
def lineUnitPrice (s : Snapshot) (chain : TaxChain) (l : CheckoutLine) : Except Error Taxed := do
  let base ← l.unitPrice s.channel.id s.sales
  chain.checkoutLineUnit s l (.untaxed base.withDiscounts)

/-- The tax rate of a line with the given total. -/
def lineTaxRateOf (s : Snapshot) (chain : TaxChain) (l : CheckoutLine) (total : Taxed) :
    Except Error Decimal := do
  chain.checkoutLineRate s l (← total.rate)

def lineTaxRate (s : Snapshot) (chain : TaxChain) (l : CheckoutLine) : Except Error Decimal := do
  s.lineTaxRateOf chain l (← s.lineTotal chain l)

/-- The sum of the line totals. -/
def taxedSubtotal (s : Snapshot) (chain : TaxChain) : Except Error Taxed := do
  let sum ← s.lines.foldlM (fun sum l => do sum.add (← s.lineTotal chain l))
    (Taxed.zero s.checkout.currency)
  chain.checkoutSubtotal s sum

def shippingPrice (s : Snapshot) (chain : TaxChain) : Except Error Taxed :=
  chain.checkoutShipping s (.untaxed s.deliveryPrice)

/-- The tax rate of shipping at the given price. -/
def shippingTaxRateOf (s : Snapshot) (chain : TaxChain) (price : Taxed) : Except Error Decimal := do
  chain.checkoutShippingRate s (← price.rate)

def shippingTaxRate (s : Snapshot) (chain : TaxChain) : Except Error Decimal := do
  s.shippingTaxRateOf chain (← s.shippingPrice chain)

/-- Lines and shipping less the discount, never below zero. -/
def total (s : Snapshot) (chain : TaxChain) : Except Error Taxed := do
  let base ← baseTotal (← s.subtotal) s.deliveryPrice s.discount
  return (← chain.checkoutTotal s (.untaxed base)).floorAtZero

/-- What is left of the total once the balance of gift cards is used up. -/
def totalWithGiftCards (s : Snapshot) (chain : TaxChain) (balance : Money) :
    Except Error Taxed := do
  return (← (← s.total chain).subAmount balance).floorAtZero

end Snapshot

end Storefront
