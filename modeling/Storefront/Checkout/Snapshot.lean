import Storefront.Checkout.Line
import Storefront.Stock.Availability

/-!
# Checkouts with all that their price depends on

A `Snapshot` is a checkout together with the rows that were read for it: its lines, the sales of
the moment, its voucher, and the ways it can be delivered.

* `Tables.checkoutLines`: splits the lines of a cart into those that can be bought, with their
  rows, and the variants that cannot.
* `Tables.snapshot`: the whole snapshot of a checkout whose lines have been read, and
  `Tables.snapshotOf` reads both.
* `Snapshot.delivery`: the delivery that the customer has chosen, looked up.
* `Snapshot.isDeliveryAvailable`: whether that choice can serve the order.
-/

namespace Storefront

structure Snapshot where
  checkout : Checkout
  channel : Channel
  user : Option User
  voucher : Option Voucher
  lines : List CheckoutLine
  sales : List Sale
  /-- The price of the lines before tax, which shipping methods are chosen by. -/
  baseSubtotal : Money
  shippingMethods : List (ShippingMethod × ShippingListing)
  warehouses : List Warehouse
  /-- What the external provider offers for the checkout. -/
  externalOffers : List ShippingOffer
deriving DecidableEq, Inhabited

/-- The price of lines before tax, with sales and vouchers. -/
def CheckoutLine.subtotal (lines : List CheckoutLine) (channel : ChannelId) (sales : List Sale)
    (currency : Currency) : Except Error Money := do
  let totals ← lines.mapM fun l => do return (← l.totalPrice channel sales).withDiscounts
  Money.sum currency totals

/-! ## Reading -/

namespace Tables

/-- A line that can be bought: its variant exists and has a price in the channel, and its product
exists and is available there. -/
def checkoutLine? (t : Tables) (channel : ChannelId) (now : Moment) (line : CartLine) :
    Option CheckoutLine := do
  let variant ← t.variant? line.variantId
  let listing ← (t.listingsOf variant.id).find? (·.channelId = channel)
  let price ← listing.price
  let product ← t.product? variant.productId
  if (t.productListing? product.id channel).any (·.isAvailable now) then
    some { cart := line, variant, listing, product, price }
  else none

/-- The lines of a checkout that can be bought, with the voucher of the checkout on those it works
on, and the variants of the other lines. -/
def checkoutLines (t : Tables) (checkout : Checkout) (channel : ChannelId) (sales : List Sale)
    (now : Moment) : Except Error (List CheckoutLine × List VariantId) := do
  let lines := checkout.lines.filterMap (t.checkoutLine? channel now)
  let unavailable := (checkout.lines.filter fun l => (t.checkoutLine? channel now l).isNone).map
    (·.variantId)
  let lines ← match t.voucherFor? checkout now with
    | some v => CheckoutLine.attach v channel sales lines
    | none => pure lines
  return (lines, unavailable)

/-- The snapshot of a checkout with the given lines. -/
def snapshot (t : Tables) (checkout : Checkout) (channel : Channel) (lines : List CheckoutLine)
    (sales : List Sale) (external : Checkout → List ShippingOffer) (now : Moment) :
    Except Error Snapshot := do
  let baseSubtotal ← CheckoutLine.subtotal lines channel.id sales checkout.currency
  return {
    checkout, channel, lines, sales, baseSubtotal
    user := checkout.userId.bind t.user?
    voucher := t.voucherFor? checkout now
    shippingMethods := t.shippingMethodsOf channel.id
    warehouses := t.warehousesOf channel.id
    externalOffers := external checkout }

/-- The snapshot of a checkout with those of its lines that can be bought, and the variants of the
other lines. -/
def snapshotOf (t : Tables) (checkout : Checkout) (external : Checkout → List ShippingOffer)
    (now : Moment) : Except Error (Snapshot × List VariantId) := do
  let channel ← t.channel checkout.channelId
  let sales := Sale.activeAt t.sales now
  let (lines, unavailable) ← t.checkoutLines checkout channel.id sales now
  return (← t.snapshot checkout channel lines sales external now, unavailable)

end Tables

/-! ## The customer -/

namespace Snapshot

/-- The country that taxes and stock go by: that of the shipping address, else that of the billing
address, else that of the channel. -/
def country (s : Snapshot) : String :=
  let countries := [s.checkout.shippingAddress, s.checkout.billingAddress].filterMap
    (·.map Address.country)
  (countries.find? (!·.isEmpty)).getD s.channel.defaultCountry

/-- The address that mails go to: that of the user, else that of the checkout. -/
def customerEmail (s : Snapshot) : Option String :=
  (s.user.map (·.email)).or s.checkout.email

def shippingRequired (s : Snapshot) : Bool := CheckoutLine.anyShipped s.lines

/-! ## Delivery -/

/-- Whether shipping methods are offered at all, and so the external provider is asked. -/
def offersShipping (s : Snapshot) : Bool :=
  s.shippingRequired && s.checkout.shippingAddress.isSome

/-- The methods of the shop that fit the order, and those of the external provider. -/
def offers (s : Snapshot) : List ShippingOffer :=
  match s.checkout.shippingAddress with
  | some address =>
    if s.shippingRequired then
      ShippingOffer.builtIn s.shippingMethods s.baseSubtotal address.country ++ s.externalOffers
    else []
  | none => []

def activeOffers (s : Snapshot) : List ShippingOffer := s.offers.filter (·.active)

/-- The delivery that the customer has chosen. A method of the shop is looked up among all methods
of the channel, an external one among the offers, a collection point among the warehouses. -/
def delivery (s : Snapshot) : Delivery :=
  let address := s.checkout.shippingAddress
  match s.checkout.deliveryChoice with
  | .none => .none
  | .shipping id =>
    match s.shippingMethods.find? (·.1.id = id) with
    | some (method, listing) => .shipping (.ofListing method listing) address
    | none => .none
  | .external id =>
    match s.offers.find? (·.key = .external id) with
    | some offer => .shipping offer address
    | none => .none
  | .collectionPoint id =>
    match s.warehouses.find? (·.id = id) with
    | some warehouse => .collectionPoint warehouse address
    | none => .none

end Snapshot

/-- The warehouses where all lines can be collected: a warehouse that serves from its own stock
needs that to cover each line, and one that serves from all needs the stock of all. The stock of
one warehouse is an exact sum, the stock of all stops at the largest quantity. -/
def Tables.collectionPoints (t : Tables) (warehouses : List Warehouse) (lines : List CheckoutLine) :
    List Warehouse :=
  let own := fun (w : Warehouse) (variant : VariantId) =>
    Quantity.total ((t.stocks.filter fun s => s.warehouseId = w.id && s.variantId = variant).map
      (·.available))
  let all := fun variant => (t.available? warehouses variant).getD 0
  let covers := fun available => lines.all fun l => l.quantity ≤ available l.variant.id
  if CheckoutLine.anyShipped lines then
    warehouses.filter fun w =>
      match w.clickAndCollect with
      | .disabled => false
      | .ownStock => covers (own w)
      | .allWarehouses => covers all
  else []

namespace Snapshot

def pickUpPoints (s : Snapshot) (t : Tables) : List Warehouse :=
  t.collectionPoints s.warehouses s.lines

/-- Whether the chosen delivery is still among those that can serve the order. -/
def isDeliveryAvailable (s : Snapshot) (t : Tables) : Bool :=
  match s.delivery with
  | .none => false
  | .shipping offer _ => s.activeOffers.any (·.key = offer.key)
  | .collectionPoint warehouse _ => (s.pickUpPoints t).any (·.id = warehouse.id)

/-! ## Asking the external provider

The provider is asked only when its offers are needed, and its answer is kept. -/

/-- Whether looking up the chosen delivery needs the offers. -/
def deliveryNeedsOffers (s : Snapshot) : Bool :=
  match s.checkout.deliveryChoice with
  | .external _ => s.offersShipping
  | _ => false

/-- Whether checking that the chosen delivery is available needs the offers. -/
def availabilityNeedsOffers (s : Snapshot) : Bool :=
  s.deliveryNeedsOffers ||
    match s.delivery with
    | .shipping .. => s.offersShipping
    | _ => false

end Snapshot

end Storefront
