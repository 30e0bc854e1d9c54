import Storefront.Checkout.BasePrice
import Storefront.Tax

/-!
# Flat rates

A tax provider with one rate for each country. It taxes the price of the lines and the price of
shipping separately, and shipping only if it is told to.
-/

namespace Storefront

/-- Rates in percent. -/
structure FlatRates where
  default : Decimal := 0
  countries : List (String × Decimal) := []
  chargeTaxesOnShipping : Bool := false
deriving DecidableEq, Inhabited

namespace FlatRates

/-- The rate of a country as a fraction, or the default rate for a country without one. -/
def rateFor (r : FlatRates) (country : Option String) : Except Error Decimal :=
  let points := (country.bind (r.countries.lookup ·)).getD r.default
  orFail .outOfRange (points.div? 100)

/-- The rate of shipping to a country, which is zero where shipping is not taxed. -/
def shippingRateFor (r : FlatRates) (country : Option String) : Except Error Decimal :=
  if r.chargeTaxesOnShipping then r.rateFor country else .ok 0

/-- The country that an order is taxed in: that of the shipping address, else that of the billing
address. -/
def orderCountry (o : Order) : Option String :=
  (o.shippingAddress.or o.billingAddress).map (·.country)

/-- The total of a checkout. The discount comes off the shipping if the voucher is for shipping,
and off the lines otherwise, before either is taxed. -/
private def checkoutTotal (r : FlatRates) (entryIncludesTax : Bool) (s : Snapshot) :
    Except Error Taxed := do
  let subtotal ← s.subtotal
  let forShipping := s.voucher.any (·.type = .shipping)
  let lines ← if forShipping then pure subtotal else (·.floorAtZero) <$> subtotal.sub s.discount
  let shipping ← if forShipping then (·.floorAtZero) <$> s.deliveryPrice.sub s.discount
    else pure s.deliveryPrice
  let taxedLines ← Taxed.ofRate lines (← r.rateFor (some s.country)) entryIncludesTax
  let taxedShipping ←
    Taxed.ofRate shipping (← r.shippingRateFor (some s.country)) entryIncludesTax
  taxedLines.add taxedShipping

/-- The provider of the rates. Faults of money are passed on as faults of the provider. -/
def provider (r : FlatRates) (entryIncludesTax : Bool) : TaxProvider :=
  let tax := fun (rate : Except Error Decimal) (price : Taxed) => do
    Taxed.ofRate price.gross (← rate) entryIncludesTax
  let checkout := fun s : Snapshot => r.rateFor (some s.country)
  let checkoutShipping := fun s : Snapshot => r.shippingRateFor (some s.country)
  let order := fun o => r.rateFor (orderCountry o)
  let orderShipping := fun o => r.shippingRateFor (orderCountry o)
  { checkoutTotal := fun s _ => (r.checkoutTotal entryIncludesTax s).mapError Error.asTax
    checkoutSubtotal := fun s => tax (checkout s)
    checkoutShipping := fun s => tax (checkoutShipping s)
    checkoutLineTotal := fun s _ => tax (checkout s)
    checkoutLineUnit := fun s _ => tax (checkout s)
    checkoutLineRate := fun s _ _ => checkout s
    checkoutShippingRate := fun s _ => checkoutShipping s
    orderLineUnit := fun o _ => tax (order o)
    orderLineTotal := fun o _ => tax (order o)
    orderShipping := fun o => tax (orderShipping o)
    orderLineRate := fun o _ _ => order o
    orderShippingRate := fun o _ => orderShipping o }

end FlatRates

end Storefront
