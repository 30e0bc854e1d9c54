import Storefront.Catalog
import Storefront.Channel
import Storefront.Error
import Storefront.Quantity
import Storefront.Text.Named

/-!
# Stock

Warehouses hold stocks of variants. Part of a stock is allocated to order lines; the rest is
available. Adding up what is asked for or available stops at the largest quantity.
-/

namespace Storefront

/-- Whether orders can be collected at a warehouse, from its own stock or from that of all. -/
inductive ClickAndCollect where
  | disabled
  | ownStock
  | allWarehouses
deriving DecidableEq, Repr, Inhabited

instance : Named ClickAndCollect where
  names := [("disabled", .disabled), ("local", .ownStock), ("all", .allWarehouses)]

structure Warehouse where
  id : WarehouseId
  name : String
  address : Address
  clickAndCollect : ClickAndCollect
  isPrivate : Bool
  channelIds : List ChannelId
  countries : List String
  sortOrder : Nat
deriving DecidableEq, Inhabited

def Warehouse.shipsTo (w : Warehouse) (country : String) : Bool := w.countries.contains country

structure Stock where
  id : StockId
  warehouseId : WarehouseId
  variantId : VariantId
  quantity : Nat
  allocated : Nat
deriving DecidableEq, Inhabited

/-- What is not allocated yet. -/
def Stock.available (s : Stock) : Nat := s.quantity - s.allocated

/-- The part of a stock that an order line has taken. -/
structure Allocation where
  orderLineId : OrderLineId
  stockId : StockId
  quantity : Nat
deriving DecidableEq, Inhabited

/-- What an order line has taken of the preorders of a channel. -/
structure PreorderAllocation where
  orderLineId : OrderLineId
  listingId : VariantListingId
  quantity : Nat
deriving DecidableEq, Inhabited

/-- A quantity of a variant that is asked for, by an order line once there is one. -/
structure Demand where
  orderLineId : Option OrderLineId
  variant : Variant
  listing : VariantListing
  quantity : Nat
deriving DecidableEq, Inhabited

namespace Demand

/-- The demand cannot be met; `available` is what there is. -/
def shortage (d : Demand) (warehouse : Option WarehouseId) (available : Nat) : Shortage where
  variantId := d.variant.id
  orderLineId := d.orderLineId
  warehouseId := warehouse
  available := available

/-- The quantity of a variant that a list of demands asks for altogether. -/
def requested (demands : List Demand) (variant : VariantId) : Nat :=
  demands.foldl
    (fun sum d => if d.variant.id = variant then Quantity.add sum d.quantity else sum) 0

end Demand

end Storefront
