import Storefront.Checkout
import Storefront.Discount.Sale
import Storefront.Discount.Voucher

/-!
# Lines of a checkout and their prices before tax

A line is priced in three ways: without discounts, with the best sale, and with the voucher on top
of the sale. A voucher that applies once per order lowers the price of one item of its line; any
other lowers the price of each.

* `CheckoutLine.unitPrice` and `CheckoutLine.totalPrice`: the prices of one item and of the line,
  rounded to the minor unit.
* `CheckoutLine.attach`: the lines that a line-level voucher works on.
-/

namespace Storefront

/-- A line of a cart with the rows that its price depends on. -/
structure CheckoutLine where
  cart : CartLine
  variant : Variant
  listing : VariantListing
  product : Product
  price : Money
  /-- The voucher that lowers the price of the line. -/
  voucher : Option Voucher := none
deriving DecidableEq, Inhabited

/-- A price without discounts, with a sale, and with a sale and a voucher. -/
structure LinePrice where
  undiscounted : Money
  withSale : Money
  withDiscounts : Money
deriving DecidableEq, Inhabited

def LinePrice.quantize (p : LinePrice) : LinePrice :=
  ⟨p.undiscounted.quantize, p.withSale.quantize, p.withDiscounts.quantize⟩

namespace CheckoutLine

def quantity (l : CheckoutLine) : Nat := l.cart.quantity

/-- What the line asks of the stock. -/
def demand (l : CheckoutLine) : Demand := ⟨none, l.variant, l.listing, l.quantity⟩

/-- The best sale on the line, with the price of one item it leaves. -/
def salePrice (l : CheckoutLine) (channel : ChannelId) (sales : List Sale) :
    Except Error (Option SaleId × Money) :=
  Sale.best sales l.product l.price l.product.collectionIds channel (some l.variant.id)

/-- The price after a voucher. A voucher that does not apply takes nothing off. -/
def afterVoucher (v : Voucher) (price : Money) (channel : ChannelId) :
    Except Error Money := do
  let off ← match v.amountFor price channel with
    | .error (.notApplicable _) => pure (Money.zero price.currency)
    | result => result
  return (← price.sub off).floorAtZero

/-- The prices of one item in full precision. A voucher that applies once per order is left out. -/
def exactUnitPrice (l : CheckoutLine) (channel : ChannelId) (sales : List Sale) :
    Except Error LinePrice := do
  let (_, withSale) ← l.salePrice channel sales
  let withDiscounts ← match l.voucher with
    | some v => if v.applyOncePerOrder then pure withSale else afterVoucher v withSale channel
    | none => pure withSale
  return ⟨l.price, withSale, withDiscounts⟩

/-- The prices of one item. -/
def unitPrice (l : CheckoutLine) (channel : ChannelId) (sales : List Sale) :
    Except Error LinePrice := do
  return (← l.exactUnitPrice channel sales).quantize

/-- The prices of the whole line. -/
def totalPrice (l : CheckoutLine) (channel : ChannelId) (sales : List Sale) :
    Except Error LinePrice := do
  let unit ← l.exactUnitPrice channel sales
  let each := unit.withDiscounts.times l.quantity
  let withDiscounts ← match l.voucher with
    | some v =>
      if v.applyOncePerOrder && 0 < l.quantity then do
        let once ← afterVoucher v unit.withSale channel
        (← unit.withSale.times (l.quantity - 1)).add once
      else each
    | none => each
  let undiscounted ← unit.undiscounted.times l.quantity
  let withSale ← unit.withSale.times l.quantity
  return LinePrice.quantize ⟨undiscounted, withSale, withDiscounts⟩

/-- Whether any line has to be shipped. -/
def anyShipped (lines : List CheckoutLine) : Bool := lines.any (·.variant.isShippingRequired)

/-! ## Vouchers on lines -/

/-- Whether a voucher is meant for the product of the line. -/
def isSelectedBy (l : CheckoutLine) (v : Voucher) : Bool :=
  v.appliesTo l.product l.product.collectionIds l.variant.id

/-- Whether a line-level voucher may work on the line. -/
def isEligible (v : Voucher) (l : CheckoutLine) : Bool :=
  v.type ≠ .specificProduct || l.isSelectedBy v

/-- The cheaper of a line found so far and another one, both with their sale prices. -/
def cheaper (best : Option (Nat × Money)) (index : Nat) (price : Money) :
    Option (Nat × Money) :=
  match best with
  | some (_, lowest) => if price.amount < lowest.amount then some (index, price) else best
  | none => some (index, price)

/-- The first eligible line with the lowest sale price, with its place and price, among the one
found so far and lines from a place on. -/
def cheapestFrom (v : Voucher) (channel : ChannelId) (sales : List Sale) (index : Nat)
    (best : Option (Nat × Money)) : List CheckoutLine → Except Error (Option (Nat × Money))
  | [] => .ok best
  | l :: rest =>
    if isEligible v l then do
      let (_, price) ← l.salePrice channel sales
      cheapestFrom v channel sales (index + 1) (cheaper best index price) rest
    else cheapestFrom v channel sales (index + 1) best rest

/-- The place of the first eligible line with the lowest sale price. -/
def cheapest? (v : Voucher) (channel : ChannelId) (sales : List Sale) (lines : List CheckoutLine) :
    Except Error (Option Nat) :=
  (cheapestFrom v channel sales 0 none lines).map (·.map (·.1))

/-- Puts a line-level voucher on the lines it works on: on the cheapest if it applies once per
order, on all eligible ones otherwise. Other vouchers are put on no line. -/
def attach (v : Voucher) (channel : ChannelId) (sales : List Sale) (lines : List CheckoutLine) :
    Except Error (List CheckoutLine) :=
  if !v.isLineLevel then .ok lines
  else if v.applyOncePerOrder then do
    match ← cheapest? v channel sales lines with
    | some index => return lines.modify index fun l => { l with voucher := some v }
    | none => return lines
  else .ok (lines.map fun l => if isEligible v l then { l with voucher := some v } else l)

end CheckoutLine

end Storefront
