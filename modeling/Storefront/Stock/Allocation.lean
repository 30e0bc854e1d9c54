import Storefront.Stock.Availability
import Storefront.Store.Transaction

/-!
# Allocating stock

Order lines take their quantities from stocks one after the other. The stocks are put in the order
of the strategy of the channel, and a line takes all it can from one stock before it goes on to the
next. Either all lines are served or nothing is written.

* `Shelf.serve`: the greedy walk of all lines over the stocks, without any store.
* `Tables.serve`: the same walk over the stocks of a store.
* `allocateStocks`: serves the lines and writes the result.
* `allocatePreorders`: records preorders within their thresholds.
-/

namespace Storefront

/-- A stock that lines may take from, the place of its warehouse, and what has been taken. -/
structure Shelf where
  position : Nat
  stock : Stock
  taken : Nat := 0
deriving DecidableEq, Inhabited

/-- What serving lines has come to. -/
structure Serving where
  shelves : List Shelf
  allocations : List Allocation := []
  shortages : List Shortage := []
deriving DecidableEq, Inhabited

namespace Shelf

/-- Whether a shelf comes before another under a strategy, ties included. -/
def precedes (strategy : AllocationStrategy) (a b : Shelf) : Bool :=
  match strategy with
  | .sortingOrder => a.position ≤ b.position
  | .highStock =>
    b.stock.available < a.stock.available ||
      (a.stock.available = b.stock.available && a.position ≤ b.position)

/-- The stocks that stand in one of the warehouses, in the order of the strategy. -/
def arrange (strategy : AllocationStrategy) (warehouses : List Warehouse) (stocks : List Stock) :
    List Shelf :=
  (stocks.filterMap fun s =>
    (warehouses.findIdx? (·.id = s.warehouseId)).map fun position => { position, stock := s })
    |>.mergeSort (precedes strategy)

/-- Takes a quantity off a shelf. -/
def take (s : Shelf) (quantity : Nat) : Shelf :=
  { s with
    stock := { s.stock with allocated := s.stock.allocated + quantity }
    taken := s.taken + quantity }

/-- Takes a quantity of a variant for an order line from shelf after shelf. Returns the shelves,
what was allocated, and what is still missing. -/
def draw (line : OrderLineId) (variant : VariantId) :
    Nat → List Shelf → List Shelf × List Allocation × Nat
  | missing, [] => ([], [], missing)
  | missing, s :: rest =>
    let quantity := if s.stock.variantId = variant then min missing s.stock.available else 0
    let (shelves, allocations, left) := draw line variant (missing - quantity) rest
    if quantity = 0 then (s :: shelves, allocations, left)
    else (s.take quantity :: shelves, ⟨line, s.stock.id, quantity⟩ :: allocations, left)

/-- Serves one demand. A demand without an order line takes nothing. -/
def serveOne (only : Option WarehouseId) (state : Serving) (d : Demand) : Serving :=
  match d.orderLineId with
  | none => state
  | some line =>
    let (shelves, allocations, missing) := draw line d.variant.id d.quantity state.shelves
    { shelves
      allocations := state.allocations ++ allocations
      shortages := if missing = 0 then state.shortages
        else state.shortages ++ [d.shortage only (d.quantity - missing)] }

/-- Serves demands in their order. -/
def serve (only : Option WarehouseId) (shelves : List Shelf) (demands : List Demand) : Serving :=
  demands.foldl (serveOne only) { shelves }

end Shelf

/-- Serves demands from the stocks of their variants in the warehouses that may serve an order. -/
def Tables.serve (t : Tables) (demands : List Demand) (country : String) (channel : Channel)
    (only : Option WarehouseId) : Serving :=
  let shelves := Shelf.arrange channel.allocationStrategy
    (t.warehousesServing channel.id country only) (t.stocksOf (demands.map (·.variant.id)))
  Shelf.serve only shelves demands

/-- The demands that are served from tracked stock. -/
def Demand.isStocked (now : Moment) (d : Demand) : Bool :=
  d.variant.trackInventory && !d.variant.isPreorderActive now

/-- Writes a shelf that was taken from. An emptied stock is announced. -/
def saveShelf (s : Shelf) : Transaction Unit := do
  if s.taken ≠ 0 then
    if s.stock.available = 0 then Transaction.onCommit (.outOfStock s.stock)
    Transaction.saveStock s.stock

/-- Allocates stock to the order lines of demands, or fails with what is short. -/
def allocateStocks (demands : List Demand) (country : String) (channel : Channel)
    (only : Option WarehouseId) (now : Moment) : Transaction (List Allocation) := do
  let demands := demands.filter (·.isStocked now)
  if demands.isEmpty then return []
  let serving := (← Transaction.tables).serve demands country channel only
  unless serving.shortages.isEmpty do throw (.insufficientStock serving.shortages)
  serving.shelves.forM saveShelf
  Transaction.insertAllocations serving.allocations
  return serving.allocations

/-- Allocates preorders to the order lines of demands, or fails with what goes beyond a
threshold. -/
def allocatePreorders (demands : List Demand) (now : Moment) :
    Transaction (List PreorderAllocation) := do
  let demands := demands.filter (·.variant.isPreorderActive now)
  let shortages := (← Transaction.tables).preorderShortages demands
  unless shortages.isEmpty do throw (.insufficientStock shortages)
  let allocations := demands.filterMap fun d =>
    d.orderLineId.map fun line => (⟨line, d.listing.id, d.quantity⟩ : PreorderAllocation)
  Transaction.insertPreorderAllocations allocations
  return allocations

end Storefront
