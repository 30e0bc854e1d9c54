import Storefront.Checkout.Price
import Storefront.Order.Charge
import Storefront.Settings

/-!
# The order that a checkout will become

Before a payment is charged the order is priced and put together as an `OrderPlan`. The plan keeps
the snapshot it was made from, so that what is created later is what was priced.

* `Snapshot.plan`: prices the order.
* `OrderPlan.order`: the order of a plan, before anything has been paid.
-/

namespace Storefront

/-- The ids of the order and of its lines. -/
structure FreshIds where
  order : OrderId
  line : Nat → OrderLineId

/-- A line of the order with the line of the checkout it comes from. -/
structure PlannedLine where
  line : OrderLine
  source : CheckoutLine
deriving DecidableEq, Inhabited

/-- What the line asks of the stock. -/
def PlannedLine.demand (l : PlannedLine) : Demand :=
  { l.source.demand with orderLineId := some l.line.id }

structure OrderPlan where
  orderId : OrderId
  snapshot : Snapshot
  baseShippingPrice : Money
  shippingPrice : Taxed
  shippingTaxRate : Decimal
  /-- What gift cards may be charged with. -/
  price : Taxed
  /-- What is left of the price once the balance of the gift cards is used up. -/
  total : Taxed
  undiscountedTotal : Taxed
  lines : List PlannedLine
  /-- The voucher of which a use has been taken. -/
  voucher : Option Voucher := none
deriving DecidableEq, Inhabited

/-! ## Pricing -/

/-- Why an item of a line costs less than without discounts. -/
def discountReason? (sale : Option SaleId) (voucherCode : Option String) : Option String :=
  match sale.map ("Sale: " ++ ·.toText), voucherCode.map ("Voucher code: " ++ ·) with
  | some sale, some voucher => some (sale ++ " & " ++ voucher)
  | sale, voucher => sale.or voucher

namespace Snapshot

/-- The order line that a line becomes. -/
def orderLine (s : Snapshot) (chain : TaxChain) (order : OrderId) (id : OrderLineId)
    (l : CheckoutLine) : Except Error OrderLine := do
  let unit ← l.unitPrice s.channel.id s.sales
  let base ← l.totalPrice s.channel.id s.sales
  let (saleId, _) ← l.salePrice s.channel.id s.sales
  let totalPrice ← s.lineTotal chain l
  let unitPrice := (← totalPrice.divide l.quantity).quantize
  let undiscountedUnitPrice ← chain.checkoutLineUnit s l (.untaxed unit.undiscounted)
  let taxRate ← s.lineTaxRateOf chain l totalPrice
  let baseUnitPrice := (← base.withDiscounts.divide l.quantity).quantize
  let unitDiscount := (← unit.undiscounted.sub baseUnitPrice).floorAtZero
  let undiscountedTotalPrice := (← undiscountedUnitPrice.times l.quantity).quantize
  let voucherCode := l.voucher.map (·.code)
  return {
    id, orderId := order
    variantId := some l.variant.id
    productName := l.product.name
    variantName := l.variant.name
    productSku := l.variant.sku
    isShippingRequired := l.variant.isShippingRequired
    isGiftCard := l.variant.isGiftCard
    quantity := l.quantity
    quantityFulfilled := 0
    unitPrice, undiscountedUnitPrice, totalPrice, undiscountedTotalPrice, baseUnitPrice
    undiscountedBaseUnitPrice := unit.undiscounted
    baseTotalPrice := base.withDiscounts
    undiscountedBaseTotalPrice := base.undiscounted
    unitDiscount
    unitDiscountValue := unitDiscount.amount
    unitDiscountType := if unitDiscount.amount.isZero then none else some .fixed
    unitDiscountReason := discountReason? saleId voucherCode
    saleId, voucherCode, taxRate }

/-- The lines of the order, the first of which gets the id with the given number. -/
def orderLines (s : Snapshot) (chain : TaxChain) (ids : FreshIds) :
    Nat → List CheckoutLine → Except Error (List PlannedLine)
  | _, [] => .ok []
  | index, l :: rest => do
    let line ← s.orderLine chain ids.order (ids.line index) l
    return ⟨line, l⟩ :: (← s.orderLines chain ids (index + 1) rest)

/-- The priced order, paid with gift cards of the given balance as far as it goes. -/
def plan (s : Snapshot) (chain : TaxChain) (ids : FreshIds) (balance : Money) :
    Except Error OrderPlan := do
  let price ← s.total chain
  let total := (← price.subAmount balance).floorAtZero
  let shippingPrice ← s.shippingPrice chain
  let shippingTaxRate ← s.shippingTaxRateOf chain shippingPrice
  let lines ← s.orderLines chain ids 0 s.lines
  let undiscountedTotal ← lines.foldlM (fun sum l => sum.add l.line.undiscountedTotalPrice)
    shippingPrice
  return {
    orderId := ids.order
    snapshot := s
    baseShippingPrice := s.deliveryPrice
    shippingPrice, shippingTaxRate, price, total, undiscountedTotal, lines }

end Snapshot

/-! ## The order -/

namespace OrderPlan

/-- The discounts on the whole order. A line-level voucher is in the lines. -/
def discounts (p : OrderPlan) : List OrderDiscount :=
  ((p.voucher.filter (!·.isLineLevel)).map fun v => {
    valueType := .fixed
    value := p.snapshot.checkout.discount.amount
    amount := p.snapshot.checkout.discount
    name := p.snapshot.checkout.discountName.or v.name }).toList

/-- The order of the plan, before anything has been paid. Metadata of the request goes over that
of the checkout. -/
def order (p : OrderPlan) (settings : Settings) (redirectUrl : Option String)
    (metadata : List (String × String)) (now : Moment) : Order :=
  let s := p.snapshot
  let checkout := s.checkout
  { id := p.orderId
    checkoutToken := some checkout.token
    channelId := s.channel.id
    status := if settings.automaticallyConfirmOrders then .unfulfilled else .unconfirmed
    createdAt := now
    userId := s.user.map (·.id)
    userEmail := s.customerEmail
    billingAddress := checkout.billingAddress
    shippingAddress := s.delivery.address?.or checkout.shippingAddress
    delivery := s.delivery.record
    baseShippingPrice := p.baseShippingPrice
    shippingPrice := p.shippingPrice
    shippingTaxRate := p.shippingTaxRate
    total := p.total
    undiscountedTotal := p.undiscountedTotal
    totalCharged := Money.zero checkout.currency
    chargeStatus := .none
    voucherId := p.voucher.map (·.id)
    discounts := p.discounts
    giftCardIds := []
    customerNote := checkout.note
    trackingClientId := checkout.trackingCode.getD ""
    redirectUrl
    metadata := metadata.foldl (fun all entry => upsert (·.1) entry all) checkout.metadata
    privateMetadata := checkout.privateMetadata
    searchDocument := ""
    displayGrossPrices := settings.pricesIncludeTaxes }

end OrderPlan

end Storefront
