import Storefront.Store

/-!
# What can be supplied

* `Tables.stockShortages`: the demands that the stocks of the serving warehouses cannot meet. All
  demands for a variant count together, and variants whose stock is not tracked can always be met
  where there is a stock at all.
* `Tables.preorderShortages`: the demands beyond the preorder thresholds of their channel or
  variant.
* `Tables.checkSupply`: fails with both kinds of shortages.
-/

namespace Storefront

namespace Tables

/-- What a list of warehouses can supply of a variant, or `none` if they do not stock it. -/
def available? (t : Tables) (warehouses : List Warehouse) (variant : VariantId) : Option Nat :=
  let stocks := t.stocks.filter fun s =>
    s.variantId = variant && warehouses.any (·.id = s.warehouseId)
  if stocks.isEmpty then none
  else some (stocks.foldl (fun sum s => Quantity.add sum s.available) 0)

/-- The demands that cannot be met from stock. -/
def stockShortages (t : Tables) (demands : List Demand) (country : String) (channel : Channel)
    (only : Option WarehouseId) : List Shortage :=
  let warehouses := t.warehousesServing channel.id country only
  demands.filterMap fun d =>
    if d.quantity = 0 then none
    else match t.available? warehouses d.variant.id with
      | none => some (d.shortage only 0)
      | some available =>
        if d.variant.trackInventory && available < Demand.requested demands d.variant.id then
          some (d.shortage only available)
        else none

/-- What the preorders on some listings, in an exact sum, leave of a threshold. -/
def preordersLeft (t : Tables) (threshold : Nat) (listings : List VariantListingId) : Nat :=
  threshold - Quantity.total ((t.preordersOf listings).map (·.quantity))

/-- The preorders left in the channel of a demand, where they are limited. -/
def channelPreordersLeft? (t : Tables) (d : Demand) : Option Nat :=
  d.listing.preorderQuantityThreshold.map fun threshold =>
    t.preordersLeft threshold [d.listing.id]

/-- The preorders left of the variant of a demand over all channels, where they are limited. -/
def globalPreordersLeft? (t : Tables) (d : Demand) : Option Nat :=
  d.variant.preorderGlobalThreshold.map fun threshold =>
    t.preordersLeft threshold ((t.listingsOf d.variant.id).map (·.id))

/-- The demands that go beyond a preorder threshold. The channel is looked at first. -/
def preorderShortages (t : Tables) (demands : List Demand) : List Shortage :=
  demands.filterMap fun d =>
    let requested := Demand.requested demands d.variant.id
    let short := fun left? : Option Nat => left?.filter (· < requested)
    ((short (t.channelPreordersLeft? d)).orElse fun _ => short (t.globalPreordersLeft? d)).map
      (d.shortage none ·)

/-- Fails with the demands that cannot be met, those from stock first. -/
def checkSupply (t : Tables) (demands : List Demand) (country : String) (channel : Channel)
    (only : Option WarehouseId) (now : Moment) : Except Error Unit :=
  let (preorders, stocked) := demands.partition (·.variant.isPreorderActive now)
  let shortages := t.stockShortages stocked country channel only ++ t.preorderShortages preorders
  if shortages.isEmpty then .ok () else .error (.insufficientStock shortages)

end Tables

end Storefront
