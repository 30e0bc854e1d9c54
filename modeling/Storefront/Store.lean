import Storefront.Checkout
import Storefront.Discount.Sale
import Storefront.Discount.Voucher
import Storefront.GiftCard
import Storefront.Order
import Storefront.Payment

/-!
# The store

`Tables` holds the rows of a shop in the order in which they were inserted. The functions here read
them; `Storefront.Store.Transaction` changes them.

* `upsert`: a row replaces the row of the same key in its place, or goes to the end.
-/

namespace Storefront

/-- Puts a row in the place of the first one with the same key, or at the end. -/
def upsert {α κ : Type} [DecidableEq κ] (key : α → κ) (row : α) : List α → List α
  | [] => [row]
  | old :: rest => if key old = key row then row :: rest else old :: upsert key row rest

/-- Puts a row in the place of the first one with the same key, if there is one. -/
def replace? {α κ : Type} [DecidableEq κ] (key : α → κ) (row : α) : List α → Option (List α)
  | [] => none
  | old :: rest =>
    if key old = key row then some (row :: rest) else (replace? key row rest).map (old :: ·)

theorem upsert_of_replace? {α κ : Type} [DecidableEq κ] {key : α → κ} {row : α}
    {rows new : List α} (h : replace? key row rows = some new) : upsert key row rows = new := by
  induction rows generalizing new with
  | nil => simp [replace?] at h
  | cons old rest ih =>
    simp only [replace?] at h
    simp only [upsert]
    split
    · rename_i hk
      rw [if_pos hk] at h
      exact Option.some.inj h
    · rename_i hk
      rw [if_neg hk] at h
      obtain ⟨r, hr, rfl⟩ := Option.map_eq_some_iff.1 h
      rw [ih hr]

structure Tables where
  channels : List Channel := []
  users : List User := []
  products : List Product := []
  productListings : List ProductListing := []
  variants : List Variant := []
  variantListings : List VariantListing := []
  sales : List Sale := []
  vouchers : List Voucher := []
  voucherCustomers : List VoucherCustomer := []
  shippingMethods : List ShippingMethod := []
  shippingListings : List ShippingListing := []
  warehouses : List Warehouse := []
  stocks : List Stock := []
  allocations : List Allocation := []
  preorderAllocations : List PreorderAllocation := []
  giftCards : List GiftCard := []
  checkouts : List Checkout := []
  payments : List Payment := []
  orders : List Order := []
  orderLines : List OrderLine := []
deriving DecidableEq, Inhabited

namespace Tables

def channel (t : Tables) (id : ChannelId) : Except Error Channel :=
  orFail (.notFound .channel id.toText) (t.channels.find? (·.id = id))

def user? (t : Tables) (id : UserId) : Option User := t.users.find? (·.id = id)

def product? (t : Tables) (id : ProductId) : Option Product := t.products.find? (·.id = id)

def productListing? (t : Tables) (product : ProductId) (channel : ChannelId) :
    Option ProductListing :=
  t.productListings.find? fun l => l.productId = product && l.channelId = channel

def variant? (t : Tables) (id : VariantId) : Option Variant := t.variants.find? (·.id = id)

/-- The listings of a variant in all channels. -/
def listingsOf (t : Tables) (variant : VariantId) : List VariantListing :=
  t.variantListings.filter (·.variantId = variant)

def voucher? (t : Tables) (id : VoucherId) : Option Voucher := t.vouchers.find? (·.id = id)

def voucherByCode? (t : Tables) (code : String) : Option Voucher :=
  t.vouchers.find? (·.code = code)

/-- Whether a customer has used a voucher. -/
def hasUsed (t : Tables) (voucher : VoucherId) (email : String) : Bool :=
  t.voucherCustomers.any fun c => c.voucherId = voucher && c.customerEmail = email

/-- The shipping methods of a channel with their listings, in the order of the listings. -/
def shippingMethodsOf (t : Tables) (channel : ChannelId) :
    List (ShippingMethod × ShippingListing) :=
  (t.shippingListings.filter (·.channelId = channel)).filterMap fun l =>
    (t.shippingMethods.find? (·.id = l.methodId)).map (·, l)

/-- The warehouses of a channel, sorted first first. -/
def warehousesOf (t : Tables) (channel : ChannelId) : List Warehouse :=
  (t.warehouses.filter (·.channelIds.contains channel)).mergeSort (·.sortOrder ≤ ·.sortOrder)

theorem mem_warehousesOf {t : Tables} {channel : ChannelId} {w : Warehouse} :
    w ∈ t.warehousesOf channel ↔ w ∈ t.warehouses ∧ channel ∈ w.channelIds := by
  simp [warehousesOf]

def warehouse? (t : Tables) (id : WarehouseId) : Option Warehouse :=
  t.warehouses.find? (·.id = id)

/-- The warehouses that may serve an order: the given one, or all that ship to the country. -/
def warehousesServing (t : Tables) (channel : ChannelId) (country : String)
    (only : Option WarehouseId) : List Warehouse :=
  (t.warehousesOf channel).filter fun w =>
    match only with
    | some id => w.id = id
    | none => w.shipsTo country

/-- They are warehouses of the channel, and the given one or ones that ship to the country. -/
theorem mem_warehousesServing {t : Tables} {channel : ChannelId} {country : String}
    {only : Option WarehouseId} {w : Warehouse} :
    w ∈ t.warehousesServing channel country only ↔
      w ∈ t.warehouses ∧ channel ∈ w.channelIds ∧ (∀ id ∈ only, w.id = id) ∧
        (only = none → w.shipsTo country) := by
  cases only <;> simp [warehousesServing, mem_warehousesOf, and_assoc]

def stocksOf (t : Tables) (variants : List VariantId) : List Stock :=
  t.stocks.filter fun s => variants.contains s.variantId

def preordersOf (t : Tables) (listings : List VariantListingId) : List PreorderAllocation :=
  t.preorderAllocations.filter fun a => listings.contains a.listingId

/-- The gift cards of a list of ids, as often as they are listed. -/
def giftCardsOf (t : Tables) (ids : List GiftCardId) : List GiftCard :=
  ids.filterMap fun id => t.giftCards.find? (·.id = id)

def checkout? (t : Tables) (token : CheckoutToken) : Option Checkout :=
  t.checkouts.find? (·.token = token)

def paymentsOf (t : Tables) (token : CheckoutToken) : List Payment :=
  t.payments.filter (·.checkoutToken = some token)

def orderOf? (t : Tables) (token : CheckoutToken) : Option Order :=
  t.orders.find? (·.checkoutToken = some token)

def linesOf (t : Tables) (order : OrderId) : List OrderLine :=
  t.orderLines.filter (·.orderId = order)

/-- The voucher of a code, if it is active in a channel. -/
def activeVoucher? (t : Tables) (code : Option String) (channel : ChannelId) (now : Moment) :
    Option Voucher := do
  let voucher ← t.voucherByCode? (← code)
  if voucher.isActiveIn channel now then some voucher else none

/-- The voucher that a checkout is priced with. -/
def voucherFor? (t : Tables) (checkout : Checkout) (now : Moment) : Option Voucher :=
  t.activeVoucher? checkout.voucherCode checkout.channelId now

end Tables

end Storefront
