import Storefront.Id
import Storefront.Money
import Storefront.Time

/-!
# The catalog

Products, their variants, and what a channel says about them: whether a product can be bought yet,
and what a variant costs.
-/

namespace Storefront

structure Product where
  id : ProductId
  name : String
  categoryId : Option CategoryId
  collectionIds : List CollectionId
deriving DecidableEq, Inhabited

/-- What a channel says about a product. -/
structure ProductListing where
  productId : ProductId
  channelId : ChannelId
  isPublished : Bool
  visibleInListings : Bool
  availableForPurchaseAt : Option Moment
deriving DecidableEq, Inhabited

/-- A product can be bought once the moment it becomes available has come. -/
def ProductListing.isAvailable (l : ProductListing) (now : Moment) : Bool :=
  l.availableForPurchaseAt.any (· ≤ now)

structure Variant where
  id : VariantId
  productId : ProductId
  sku : Option String
  name : String
  trackInventory : Bool
  isShippingRequired : Bool
  isGiftCard : Bool
  isPreorder : Bool
  preorderEndDate : Option Moment
  /-- The most preorders over all channels. -/
  preorderGlobalThreshold : Option Nat
deriving DecidableEq, Inhabited

/-- A preorder lasts up to and including its end date. -/
def Variant.isPreorderActive (v : Variant) (now : Moment) : Bool :=
  v.isPreorder && v.preorderEndDate.all (now ≤ ·)

/-- What a channel says about a variant. A variant without a price cannot be sold there. -/
structure VariantListing where
  id : VariantListingId
  variantId : VariantId
  channelId : ChannelId
  price : Option Money
  costPrice : Option Money
  /-- The most preorders in the channel. -/
  preorderQuantityThreshold : Option Nat
deriving DecidableEq, Inhabited

end Storefront
