import Storefront.Stock

/-!
# Delivery

A checkout is delivered by a shipping method of the shop, by a method that an external provider
offers, or collected at a warehouse. `Delivery` is the choice of a checkout with what is known
about it.
-/

namespace Storefront

structure ShippingMethod where
  id : ShippingMethodId
  name : String
  countries : List String
  active : Bool
deriving DecidableEq, Inhabited

/-- What a channel says about a shipping method. -/
structure ShippingListing where
  methodId : ShippingMethodId
  channelId : ChannelId
  price : Money
  minimumOrderPrice : Option Money
  maximumOrderPrice : Option Money
deriving DecidableEq, Inhabited

inductive MethodKey where
  | builtIn (id : ShippingMethodId)
  | external (id : String)
deriving DecidableEq, Inhabited

/-- A method of shipping, of the shop or of an external provider, with its price. -/
structure ShippingOffer where
  key : MethodKey
  name : String
  price : Money
  minimumOrderPrice : Option Money
  maximumOrderPrice : Option Money
  active : Bool
  message : Option String
deriving DecidableEq, Inhabited

namespace ShippingOffer

/-- The offer of a method of the shop in a channel. -/
def ofListing (method : ShippingMethod) (listing : ShippingListing) : ShippingOffer where
  key := .builtIn method.id
  name := method.name
  price := listing.price
  minimumOrderPrice := listing.minimumOrderPrice
  maximumOrderPrice := listing.maximumOrderPrice
  active := method.active
  message := none

/-- Whether an order of this price lies within the limits of the offer, both included. -/
def accepts (o : ShippingOffer) (subtotal : Money) : Bool :=
  o.minimumOrderPrice.all (·.amount ≤ subtotal.amount) &&
    o.maximumOrderPrice.all (subtotal.amount ≤ ·.amount)

/-- The offers of the shop for a country and an order price. -/
def builtIn (methods : List (ShippingMethod × ShippingListing)) (subtotal : Money)
    (country : String) : List ShippingOffer :=
  ((methods.filter fun m => m.1.countries.contains country).map fun m => ofListing m.1 m.2).filter
    (·.accepts subtotal)

end ShippingOffer

/-- What a customer has chosen. -/
inductive DeliveryChoice where
  | none
  | shipping (id : ShippingMethodId)
  | external (id : String)
  | collectionPoint (warehouse : WarehouseId)
deriving DecidableEq, Inhabited

/-- A choice that has been looked up, with the shipping address of the checkout. -/
inductive Delivery where
  | none
  | shipping (offer : ShippingOffer) (address : Option Address)
  | collectionPoint (warehouse : Warehouse) (address : Option Address)
deriving DecidableEq, Inhabited

/-- What an order keeps of its delivery. -/
structure DeliveryRecord where
  shippingMethod : Option MethodKey := .none
  shippingMethodName : Option String := .none
  collectionPointId : Option WarehouseId := .none
  collectionPointName : Option String := .none
deriving DecidableEq, Inhabited

namespace Delivery

def isSelected : Delivery → Bool
  | none => false
  | _ => true

/-- Whether the address fits: shipping needs one, and a collection point has to be at it. -/
def isValid : Delivery → Bool
  | none => false
  | shipping _ address => address.isSome
  | collectionPoint warehouse address => address = some warehouse.address

/-- Whether the order is collected from the stock of one warehouse. -/
def isLocal : Delivery → Bool
  | collectionPoint warehouse _ => warehouse.clickAndCollect = .ownStock
  | _ => false

/-- The only warehouse that may serve the order, for a collection point with its own stock. -/
def warehouseFilter : Delivery → Option WarehouseId
  | collectionPoint warehouse _ =>
    if warehouse.clickAndCollect = .ownStock then some warehouse.id else .none
  | _ => .none

def name? : Delivery → Option String
  | none => .none
  | shipping offer _ => some offer.name
  | collectionPoint warehouse _ => some warehouse.name

def address? : Delivery → Option Address
  | none => .none
  | shipping _ address => address
  | collectionPoint warehouse _ => some warehouse.address

/-- The price of shipping. Collecting has none. -/
def price? : Delivery → Option Money
  | shipping offer _ => some offer.price
  | _ => .none

def record : Delivery → DeliveryRecord
  | none => {}
  | shipping offer _ =>
    { shippingMethod := some offer.key, shippingMethodName := some offer.name }
  | collectionPoint warehouse _ =>
    { collectionPointId := some warehouse.id, collectionPointName := some warehouse.name }

end Delivery

end Storefront
