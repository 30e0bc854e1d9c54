import Storefront.Checkout.Snapshot
import Storefront.Order

/-!
# Taxes

A tax provider turns prices into taxed ones. Providers form a chain: each is asked in turn until
one of them settles the tax of a price, so that no price is taxed twice. Tax rates are different:
every provider of the chain may change them.

* `TaxChain.price`: asks the providers for a price and rounds the answer.
* `TaxChain.rate`: asks the providers for a rate.
-/

namespace Storefront

/-- A provider of taxes. What it does not say about a price or a rate stays as it is. -/
structure TaxProvider where
  checkoutTotal : Snapshot → Taxed → Except Error Taxed := fun _ => .ok
  checkoutSubtotal : Snapshot → Taxed → Except Error Taxed := fun _ => .ok
  checkoutShipping : Snapshot → Taxed → Except Error Taxed := fun _ => .ok
  checkoutLineTotal : Snapshot → CheckoutLine → Taxed → Except Error Taxed := fun _ _ => .ok
  checkoutLineUnit : Snapshot → CheckoutLine → Taxed → Except Error Taxed := fun _ _ => .ok
  checkoutLineRate : Snapshot → CheckoutLine → Decimal → Except Error Decimal := fun _ _ => .ok
  checkoutShippingRate : Snapshot → Decimal → Except Error Decimal := fun _ => .ok
  orderLineUnit : Order → OrderLine → Taxed → Except Error Taxed := fun _ _ => .ok
  orderLineTotal : Order → OrderLine → Taxed → Except Error Taxed := fun _ _ => .ok
  orderShipping : Order → Taxed → Except Error Taxed := fun _ => .ok
  orderLineRate : Order → OrderLine → Decimal → Except Error Decimal := fun _ _ => .ok
  orderShippingRate : Order → Decimal → Except Error Decimal := fun _ => .ok
  /-- Called before an order is created. -/
  prepareOrder : Snapshot → Except Error Unit := fun _ => .ok ()

/-- Providers in the order in which they are asked. -/
abbrev TaxChain := List TaxProvider

namespace TaxChain

/-- Asks provider after provider until the price is taxed. -/
def settle (ask : TaxProvider → Taxed → Except Error Taxed) : TaxChain → Taxed → Except Error Taxed
  | [], price => .ok price
  | provider :: rest, price =>
    if price.isTaxed then .ok price else do settle ask rest (← ask provider price)

/-- The price that the chain makes of a price, rounded to the minor unit. -/
def price (chain : TaxChain) (ask : TaxProvider → Taxed → Except Error Taxed) (initial : Taxed) :
    Except Error Taxed := do
  return (← chain.settle ask initial).quantize

/-- The rate that the chain makes of a rate. -/
def rate (chain : TaxChain) (ask : TaxProvider → Decimal → Except Error Decimal)
    (initial : Decimal) : Except Error Decimal :=
  chain.foldlM (fun r provider => ask provider r) initial

/-- A price that is taxed already is only rounded. -/
theorem price_of_isTaxed (chain : TaxChain) (ask : TaxProvider → Taxed → Except Error Taxed)
    {initial : Taxed} (h : initial.isTaxed = true) :
    chain.price ask initial = .ok initial.quantize := by
  cases chain with
  | nil => rfl
  | cons provider rest => unfold price settle; rw [if_pos h]; rfl

/-! ## Checkouts -/

def checkoutTotal (chain : TaxChain) (s : Snapshot) : Taxed → Except Error Taxed :=
  chain.price (·.checkoutTotal s)

def checkoutSubtotal (chain : TaxChain) (s : Snapshot) : Taxed → Except Error Taxed :=
  chain.price (·.checkoutSubtotal s)

def checkoutShipping (chain : TaxChain) (s : Snapshot) : Taxed → Except Error Taxed :=
  chain.price (·.checkoutShipping s)

def checkoutLineTotal (chain : TaxChain) (s : Snapshot) (l : CheckoutLine) :
    Taxed → Except Error Taxed :=
  chain.price (·.checkoutLineTotal s l)

def checkoutLineUnit (chain : TaxChain) (s : Snapshot) (l : CheckoutLine) :
    Taxed → Except Error Taxed :=
  chain.price (·.checkoutLineUnit s l)

def checkoutLineRate (chain : TaxChain) (s : Snapshot) (l : CheckoutLine) :
    Decimal → Except Error Decimal :=
  chain.rate (·.checkoutLineRate s l)

def checkoutShippingRate (chain : TaxChain) (s : Snapshot) : Decimal → Except Error Decimal :=
  chain.rate (·.checkoutShippingRate s)

/-- Tells the providers that an order is about to be created. -/
def prepareOrder (chain : TaxChain) (s : Snapshot) : Except Error Unit :=
  chain.forM (·.prepareOrder s)

/-! ## Orders -/

def orderLineUnit (chain : TaxChain) (o : Order) (l : OrderLine) : Taxed → Except Error Taxed :=
  chain.price (·.orderLineUnit o l)

def orderLineTotal (chain : TaxChain) (o : Order) (l : OrderLine) : Taxed → Except Error Taxed :=
  chain.price (·.orderLineTotal o l)

def orderShipping (chain : TaxChain) (o : Order) : Taxed → Except Error Taxed :=
  chain.price (·.orderShipping o)

def orderLineRate (chain : TaxChain) (o : Order) (l : OrderLine) :
    Decimal → Except Error Decimal :=
  chain.rate (·.orderLineRate o l)

def orderShippingRate (chain : TaxChain) (o : Order) : Decimal → Except Error Decimal :=
  chain.rate (·.orderShippingRate o)

end TaxChain

end Storefront
