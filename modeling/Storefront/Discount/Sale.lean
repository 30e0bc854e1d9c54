import Storefront.Catalog
import Storefront.Channel
import Storefront.Discount

/-!
# Sales

A sale lowers the prices of the products and variants it covers, by a value that each channel
sets. Of several sales on one product the one that leaves the lowest price counts, and the first
of those that leave the same price.

* `Sale.activeAt`: the sales that run at a moment.
* `Sale.discountOn`: the discount of a sale on a product, if it covers it.
* `Sale.best`: the sale that counts, with the price it leaves.
-/

namespace Storefront

structure SaleListing where
  channelId : ChannelId
  discountValue : Decimal
  currency : Currency
deriving DecidableEq, Inhabited

structure Sale where
  id : SaleId
  name : String
  valueType : DiscountType
  startDate : Moment
  endDate : Option Moment
  channelListings : List SaleListing
  productIds : List ProductId
  categoryIds : List CategoryId
  collectionIds : List CollectionId
  variantIds : List VariantId
deriving DecidableEq, Inhabited

namespace Sale

def isActive (s : Sale) (now : Moment) : Bool := now.within s.startDate s.endDate

/-- The sales of a list that run at a moment. -/
def activeAt (sales : List Sale) (now : Moment) : List Sale := sales.filter (·.isActive now)

/-- What the sale is worth in a channel. Of several listings for one channel the last counts. -/
def listing? (s : Sale) (channel : ChannelId) : Option SaleListing :=
  s.channelListings.findRev? (·.channelId = channel)

theorem listing?_isSome_iff {s : Sale} {channel : ChannelId} :
    (s.listing? channel).isSome ↔ ∃ x ∈ s.channelListings, x.channelId = channel := by
  simp [listing?, List.findRev?_eq_find?_reverse]

/-- The discount of the sale in a channel. -/
def discountFor (s : Sale) (channel : ChannelId) : Except Error Discount :=
  match s.listing? channel with
  | some l => Discount.ofValue s.valueType l.discountValue l.currency
  | none => .error (.notApplicable .saleNotInChannel)

/-- Whether the sale covers a product, its category, one of the collections or the variant. -/
def covers (s : Sale) (product : Product) (collections : List CollectionId)
    (variant : Option VariantId) : Bool :=
  s.productIds.contains product.id
    || product.categoryId.any s.categoryIds.contains
    || collections.any s.collectionIds.contains
    || variant.any s.variantIds.contains

/-- There are four ways to be covered. -/
theorem covers_iff {s : Sale} {product : Product} {collections : List CollectionId}
    {variant : Option VariantId} :
    s.covers product collections variant ↔
      product.id ∈ s.productIds ∨ (∃ category ∈ product.categoryId, category ∈ s.categoryIds) ∨
        (∃ collection ∈ collections, collection ∈ s.collectionIds) ∨
        ∃ v ∈ variant, v ∈ s.variantIds := by
  simp [covers, or_assoc, Option.any_eq_true]

/-- The discount of the sale on a product. -/
def discountOn (s : Sale) (product : Product) (collections : List CollectionId)
    (channel : ChannelId) (variant : Option VariantId) : Except Error Discount :=
  if s.covers product collections variant then s.discountFor channel
  else .error (.notApplicable .productNotOnSale)

/-- The better of a sale found so far and another one with the price it leaves. -/
private def better (best : Option (SaleId × Money)) (sale : SaleId) (price : Money) :
    Option (SaleId × Money) :=
  match best with
  | some (_, lowest) => if price.amount < lowest.amount then some (sale, price) else best
  | none => some (sale, price)

/-- Looks at one more sale. Sales that do not apply are passed over. -/
def consider (product : Product) (price : Money) (collections : List CollectionId)
    (channel : ChannelId) (variant : Option VariantId) (best : Option (SaleId × Money))
    (s : Sale) : Except Error (Option (SaleId × Money)) :=
  match s.discountOn product collections channel variant with
  | .ok discount => (discount.apply price).map (better best s.id)
  | .error (.notApplicable _) => .ok best
  | .error e => .error e

/-- The sale that leaves the lowest price, with that price. Without a sale the price stays. -/
def best (sales : List Sale) (product : Product) (price : Money)
    (collections : List CollectionId) (channel : ChannelId) (variant : Option VariantId) :
    Except Error (Option SaleId × Money) := do
  match ← sales.foldlM (consider product price collections channel variant) none with
  | some (sale, lowest) => return (some sale, lowest)
  | none => return (none, price)

end Sale

end Storefront
