import Storefront.Delivery
import Storefront.Discount
import Storefront.Taxed
import Storefront.Text.Named

/-!
# Orders

What a completed checkout becomes: an order with its lines, which keep their prices before tax
(`base…`), with tax, and without discounts (`undiscounted…`).

Every order comes from a checkout and every discount on an order from a voucher, so neither the
origin of an order nor the kind and the id of a discount are recorded.
-/

namespace Storefront

inductive OrderStatus where
  | unconfirmed
  | unfulfilled
deriving DecidableEq, Repr, Inhabited

instance : Named OrderStatus where
  names := [("unconfirmed", .unconfirmed), ("unfulfilled", .unfulfilled)]

/-- How much of an order has been paid. -/
inductive OrderChargeStatus where
  | none
  | partly
  | full
  | overcharged
deriving DecidableEq, Repr, Inhabited

instance : Named OrderChargeStatus where
  names := [("none", .none), ("partial", .partly), ("full", .full), ("overcharged", .overcharged)]

/-- The discount of a voucher on a whole order. -/
structure OrderDiscount where
  valueType : DiscountType
  value : Decimal
  amount : Money
  name : Option String
deriving DecidableEq, Inhabited

structure Order where
  id : OrderId
  checkoutToken : Option CheckoutToken
  channelId : ChannelId
  status : OrderStatus
  createdAt : Moment
  userId : Option UserId
  userEmail : Option String
  billingAddress : Option Address
  shippingAddress : Option Address
  delivery : DeliveryRecord
  baseShippingPrice : Money
  shippingPrice : Taxed
  shippingTaxRate : Decimal
  total : Taxed
  undiscountedTotal : Taxed
  totalCharged : Money
  chargeStatus : OrderChargeStatus
  voucherId : Option VoucherId
  discounts : List OrderDiscount
  giftCardIds : List GiftCardId
  customerNote : String
  trackingClientId : String
  redirectUrl : Option String
  metadata : List (String × String)
  privateMetadata : List (String × String)
  searchDocument : String
  displayGrossPrices : Bool
deriving DecidableEq, Inhabited

structure OrderLine where
  id : OrderLineId
  orderId : OrderId
  variantId : Option VariantId
  productName : String
  variantName : String
  productSku : Option String
  isShippingRequired : Bool
  isGiftCard : Bool
  quantity : Nat
  quantityFulfilled : Nat
  unitPrice : Taxed
  undiscountedUnitPrice : Taxed
  totalPrice : Taxed
  undiscountedTotalPrice : Taxed
  baseUnitPrice : Money
  undiscountedBaseUnitPrice : Money
  baseTotalPrice : Money
  undiscountedBaseTotalPrice : Money
  unitDiscount : Money
  unitDiscountValue : Decimal
  unitDiscountType : Option DiscountType
  unitDiscountReason : Option String
  saleId : Option SaleId
  voucherCode : Option String
  taxRate : Decimal
deriving DecidableEq, Inhabited

namespace Order

def currency (o : Order) : Currency := o.total.currency

/-- Whether the money charged reaches the total. -/
def isFullyPaid (o : Order) : Bool := o.total.gross.amount ≤ o.totalCharged.amount

end Order

end Storefront
