import Storefront.Catalog
import Storefront.Channel
import Storefront.Discount
import Storefront.User

/-!
# Vouchers

A voucher is a code that takes something off an order, its shipping or selected products. Some
vouchers work on lines (`Voucher.isLineLevel`): they lower the prices of the lines themselves, and
not the total.

* `Voucher.amountFor`: what a voucher takes off a price.
* `Voucher.productsDiscount`: what it takes off a list of unit prices, off each of them or off the
  cheapest.
* `Voucher.checkMinimumSpent` and its siblings: the conditions of a voucher.
-/

namespace Storefront

inductive VoucherType where
  | entireOrder
  | shipping
  | specificProduct
deriving DecidableEq, Repr, Inhabited

instance : Named VoucherType where
  names := [("entire_order", .entireOrder), ("shipping", .shipping),
    ("specific_product", .specificProduct)]

structure VoucherListing where
  channelId : ChannelId
  discountValue : Decimal
  currency : Currency
  minSpent : Option Money
deriving DecidableEq, Inhabited

structure Voucher where
  id : VoucherId
  code : String
  name : Option String
  type : VoucherType
  valueType : DiscountType
  usageLimit : Option Nat
  used : Nat
  applyOncePerOrder : Bool
  applyOncePerCustomer : Bool
  onlyForStaff : Bool
  minCheckoutItemsQuantity : Option Nat
  countries : List String
  startDate : Moment
  endDate : Option Moment
  productIds : List ProductId
  variantIds : List VariantId
  categoryIds : List CategoryId
  collectionIds : List CollectionId
  channelListings : List VoucherListing
deriving DecidableEq, Inhabited

/-- The record that a customer has used a voucher. -/
structure VoucherCustomer where
  voucherId : VoucherId
  customerEmail : String
deriving DecidableEq, Inhabited

namespace Voucher

/-- What the voucher is worth in a channel. The first listing for the channel counts. -/
def listing? (v : Voucher) (channel : ChannelId) : Option VoucherListing :=
  v.channelListings.find? (·.channelId = channel)

/-- The voucher with the given number of uses. -/
def withUsed (v : Voucher) (used : Nat) : Voucher := { v with used }

@[simp] theorem id_withUsed (v : Voucher) (used : Nat) : (v.withUsed used).id = v.id := rfl

@[simp] theorem used_withUsed (v : Voucher) (used : Nat) : (v.withUsed used).used = used := rfl

@[simp] theorem withUsed_used (v : Voucher) : v.withUsed v.used = v := rfl

/-- Whether the voucher has uses left. -/
def hasUsesLeft (v : Voucher) : Bool := v.usageLimit.all (v.used < ·)

def isActive (v : Voucher) (now : Moment) : Bool :=
  now.within v.startDate v.endDate && v.hasUsesLeft

def isActiveIn (v : Voucher) (channel : ChannelId) (now : Moment) : Bool :=
  v.isActive now && (v.listing? channel).isSome

/-- Whether the voucher lowers the prices of lines. -/
def isLineLevel (v : Voucher) : Bool := v.type = .specificProduct || v.applyOncePerOrder

/-- Whether the voucher is limited to selected products. -/
def hasAllowList (v : Voucher) : Bool :=
  !(v.productIds.isEmpty && v.variantIds.isEmpty && v.categoryIds.isEmpty &&
    v.collectionIds.isEmpty)

/-- Whether a variant of a product is among the selected ones, or nothing is selected. -/
def appliesTo (v : Voucher) (product : Product) (collections : List CollectionId)
    (variant : VariantId) : Bool :=
  !v.hasAllowList
    || v.productIds.contains product.id
    || v.variantIds.contains variant
    || product.categoryId.any v.categoryIds.contains
    || collections.any v.collectionIds.contains

/-- The discount of the voucher in a channel. -/
def discountFor (v : Voucher) (channel : ChannelId) : Except Error Discount :=
  match v.listing? channel with
  | some l => Discount.ofValue v.valueType l.discountValue l.currency
  | none => .error (.notApplicable .voucherNotInChannel)

/-- What the voucher takes off a price, which is the price itself where the discounted price would
be higher. -/
def amountFor (v : Voucher) (price : Money) (channel : ChannelId) : Except Error Money := do
  let discounted ← (← v.discountFor channel).apply price
  let off ← price.sub discounted
  return if off.amount.isNegative then price else off

/-! ## Conditions -/

/-- The minimum is only looked at where it is in the currency of the value. -/
def checkMinimumSpent (v : Voucher) (value : Money) (channel : ChannelId) : Except Error Unit :=
  match (v.listing? channel).bind (·.minSpent) with
  | some minimum =>
    if value.currency = minimum.currency ∧ value.amount < minimum.amount then
      .error (.notApplicable (.minimumSpent minimum))
    else .ok ()
  | none => .ok ()

def checkMinimumQuantity (v : Voucher) (quantity : Nat) : Except Error Unit :=
  match v.minCheckoutItemsQuantity with
  | some minimum =>
    if quantity < minimum then .error (.notApplicable (.minimumQuantity minimum)) else .ok ()
  | none => .ok ()

def checkStaff (v : Voucher) (user : Option User) : Except Error Unit :=
  if v.onlyForStaff && !user.any (·.isStaff) then .error (.notApplicable .staffOnly) else .ok ()

/-! ## Selected products -/

/-- What the voucher takes off unit prices: off the cheapest of them if it applies once per order,
off each of them otherwise. -/
def productsDiscount (v : Voucher) (prices : List Money) (channel : ChannelId)
    (currency : Currency) : Except Error Money :=
  match prices with
  | [] => .error (.notApplicable .noSelectedItems)
  | first :: _ =>
    if v.applyOncePerOrder then v.amountFor (prices.foldl Money.min first) channel
    else do
      let amounts ← prices.mapM (v.amountFor · channel)
      return (← Money.sum currency amounts).floorAtZero

end Voucher

end Storefront
