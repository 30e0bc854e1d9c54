import Storefront.Proofs.Store.Run
import Storefront.Stock.Allocation

/-!
# What serving demands does to the shelves

Serving demands takes quantities off shelves and records them as allocations. A shelf never gives
more than is available, and what it has given is what was recorded of its stock.

* `Shelf.Takings`: what a walk over shelves keeps true of them.
* `Tables.serve_takings`: serving the demands of a store keeps it.
* `Shelf.mem_putBack`: the stocks after the shelves that gave something have been put back.
* `allocateStocks_ok`, `allocatePreorders_ok`: the two transactions.
-/

namespace Storefront

/-- What the allocations take of a stock. -/
def Allocation.ofStock (allocations : List Allocation) (id : StockId) : Nat :=
  Quantity.total ((allocations.filter (·.stockId = id)).map (·.quantity))

theorem Allocation.ofStock_append (a b : List Allocation) (id : StockId) :
    ofStock (a ++ b) id = ofStock a id + ofStock b id := by
  simp [ofStock]

theorem Allocation.ofStock_cons (a : Allocation) (rest : List Allocation) (id : StockId) :
    ofStock (a :: rest) id = (if a.stockId = id then a.quantity else 0) + ofStock rest id := by
  by_cases h : a.stockId = id <;> simp [ofStock, h]

namespace Shelf

/-- The stock of a shelf before anything was taken. -/
def untouched (s : Shelf) : Stock := { s.stock with allocated := s.stock.allocated - s.taken }

/-- What has been taken of a stock. -/
def takenOf (shelves : List Shelf) (id : StockId) : Nat :=
  Quantity.total ((shelves.filter (·.stock.id = id)).map (·.taken))

theorem takenOf_cons (s : Shelf) (rest : List Shelf) (id : StockId) :
    takenOf (s :: rest) id = (if s.stock.id = id then s.taken else 0) + takenOf rest id := by
  by_cases h : s.stock.id = id <;> simp [takenOf, h]

/-- What is true of shelves that were filled with the stocks `before`, from which the given
allocations have been taken. -/
structure Takings (before : List Stock) (shelves : List Shelf) (allocations : List Allocation) :
    Prop where
  untouched : shelves.map untouched = before
  taken : ∀ s ∈ shelves, s.taken ≤ s.stock.allocated
  /-- No stock gives more than it has. -/
  bounded : (∀ s ∈ before, s.allocated ≤ s.quantity) →
    ∀ s ∈ shelves, s.stock.allocated ≤ s.stock.quantity
  /-- What was taken of a stock is what was allocated of it. -/
  recorded : ∀ id, takenOf shelves id = Allocation.ofStock allocations id

/-- `Draws line shelves shelves' allocations`: nothing, or no more than is available, was taken
from one shelf after the other and recorded for an order line. -/
inductive Draws (line : OrderLineId) : List Shelf → List Shelf → List Allocation → Prop where
  | nil : Draws line [] [] []
  | skip {s : Shelf} {rest shelves : List Shelf} {allocations : List Allocation}
      (h : Draws line rest shelves allocations) :
      Draws line (s :: rest) (s :: shelves) allocations
  | take {s : Shelf} {quantity : Nat} {rest shelves : List Shelf} {allocations : List Allocation}
      (hquantity : quantity ≤ s.stock.available) (h : Draws line rest shelves allocations) :
      Draws line (s :: rest) (s.take quantity :: shelves)
        (⟨line, s.stock.id, quantity⟩ :: allocations)

variable {line : OrderLineId} {before : List Stock} {shelves shelves' : List Shelf}
  {allocations new : List Allocation}

theorem draws_draw (line : OrderLineId) (variant : VariantId) (missing : Nat)
    (shelves : List Shelf) :
    Draws line shelves (draw line variant missing shelves).1
      (draw line variant missing shelves).2.1 := by
  induction shelves generalizing missing with
  | nil => exact .nil
  | cons s rest ih =>
    unfold draw
    generalize hquantity : (if s.stock.variantId = variant then min missing s.stock.available
      else 0) = quantity
    have hle : quantity ≤ s.stock.available := by
      rw [← hquantity]
      split
      · exact Nat.min_le_right _ _
      · exact Nat.zero_le _
    by_cases hzero : quantity = 0
    · simpa [hzero] using Draws.skip (ih missing)
    · simpa [hzero] using Draws.take hle (ih (missing - quantity))

theorem untouched_take (s : Shelf) (quantity : Nat) :
    (s.take quantity).untouched = s.untouched := by
  simp [untouched, take, Nat.add_sub_add_right]

namespace Draws

theorem untouched (h : Draws line shelves shelves' new) :
    shelves'.map Shelf.untouched = shelves.map Shelf.untouched := by
  induction h with
  | nil => rfl
  | skip _ ih => rw [List.map_cons, List.map_cons, ih]
  | take _ _ ih => rw [List.map_cons, List.map_cons, ih, untouched_take]

/-- What taking an available quantity keeps true of a shelf stays true of all shelves. -/
theorem forall_mem {Q : Shelf → Prop} (h : Draws line shelves shelves' new)
    (hshelves : ∀ s ∈ shelves, Q s)
    (htake : ∀ s quantity, quantity ≤ s.stock.available → Q s → Q (s.take quantity)) :
    ∀ s ∈ shelves', Q s := by
  induction h with
  | nil => exact hshelves
  | skip _ ih =>
    obtain ⟨hs, hrest⟩ := List.forall_mem_cons.1 hshelves
    exact List.forall_mem_cons.2 ⟨hs, ih hrest⟩
  | take hquantity _ ih =>
    obtain ⟨hs, hrest⟩ := List.forall_mem_cons.1 hshelves
    exact List.forall_mem_cons.2 ⟨htake _ _ hquantity hs, ih hrest⟩

theorem taken (h : Draws line shelves shelves' new)
    (htaken : ∀ s ∈ shelves, s.taken ≤ s.stock.allocated) :
    ∀ s ∈ shelves', s.taken ≤ s.stock.allocated :=
  h.forall_mem htaken fun _ quantity _ hs => Nat.add_le_add_right hs quantity

theorem bounded (h : Draws line shelves shelves' new)
    (hbounded : ∀ s ∈ shelves, s.stock.allocated ≤ s.stock.quantity) :
    ∀ s ∈ shelves', s.stock.allocated ≤ s.stock.quantity := by
  refine h.forall_mem hbounded fun s quantity hquantity hs => ?_
  -- what is available is what the allocated part leaves of the quantity
  show s.stock.allocated + quantity ≤ s.stock.quantity
  unfold Stock.available at hquantity
  omega

theorem takenOf (h : Draws line shelves shelves' new) (id : StockId) :
    Shelf.takenOf shelves' id = Shelf.takenOf shelves id + Allocation.ofStock new id := by
  induction h with
  | nil => rfl
  | skip _ ih => rw [takenOf_cons, takenOf_cons, ih, Nat.add_assoc]
  | @take s quantity _ _ _ _ _ ih =>
    rw [takenOf_cons, takenOf_cons, Allocation.ofStock_cons, ih]
    by_cases hid : s.stock.id = id
    · simp only [Shelf.take, hid, if_true]
      omega
    · simp only [Shelf.take, hid, if_false]
      omega

end Draws

namespace Takings

/-- Shelves that nothing has been taken from. -/
theorem start (h : ∀ s ∈ shelves, s.taken = 0) : Takings (shelves.map (·.stock)) shelves [] where
  untouched := List.map_congr_left fun s hs => by simp [Shelf.untouched, h s hs]
  taken s hs := by simp [h s hs]
  bounded hbounded s hs := hbounded _ (List.mem_map_of_mem hs)
  recorded id := by
    induction shelves with
    | nil => rfl
    | cons s rest ih =>
      obtain ⟨hs, hrest⟩ := List.forall_mem_cons.1 h
      rw [takenOf_cons, ih hrest, hs, ite_self, Nat.zero_add]

theorem draws (h : Takings before shelves allocations) (hd : Draws line shelves shelves' new) :
    Takings before shelves' (allocations ++ new) where
  untouched := hd.untouched.trans h.untouched
  taken := hd.taken h.taken
  bounded hbounded := hd.bounded (h.bounded hbounded)
  recorded id := by rw [hd.takenOf, h.recorded, Allocation.ofStock_append]

theorem serveOne {only : Option WarehouseId} {state : Serving}
    (h : Takings before state.shelves state.allocations) (d : Demand) :
    Takings before (Shelf.serveOne only state d).shelves
      (Shelf.serveOne only state d).allocations := by
  unfold Shelf.serveOne
  split
  · exact h
  · exact h.draws (draws_draw _ _ _ _)

theorem serve {only : Option WarehouseId} (h : ∀ s ∈ shelves, s.taken = 0)
    (demands : List Demand) :
    Takings (shelves.map (·.stock)) (Shelf.serve only shelves demands).shelves
      (Shelf.serve only shelves demands).allocations := by
  have hrun : ∀ (demands : List Demand) (state : Serving),
      Takings (shelves.map (·.stock)) state.shelves state.allocations →
      Takings (shelves.map (·.stock)) (demands.foldl (Shelf.serveOne only) state).shelves
        (demands.foldl (Shelf.serveOne only) state).allocations := by
    intro demands
    induction demands with
    | nil => exact fun _ hstate => hstate
    | cons d rest ih => exact fun state hstate => ih _ (hstate.serveOne d)
  exact hrun demands _ (start h)

end Takings

/-! ## The shelves of a store -/

theorem taken_arrange {strategy : AllocationStrategy} {warehouses : List Warehouse}
    {stocks : List Stock} {s : Shelf} (h : s ∈ arrange strategy warehouses stocks) :
    s.taken = 0 := by
  obtain ⟨_, -, hs⟩ := List.mem_filterMap.1 (List.mem_mergeSort.1 h)
  obtain ⟨_, -, rfl⟩ := Option.map_eq_some_iff.1 hs
  rfl

/-- Each shelf holds a stock of its own. -/
theorem arrange_stocks (strategy : AllocationStrategy) (warehouses : List Warehouse)
    (stocks : List Stock) :
    ((arrange strategy warehouses stocks).map (·.stock)).Subperm stocks := by
  refine ((List.mergeSort_perm _ _).map _).subperm.trans (List.Sublist.subperm ?_)
  rw [List.map_filterMap]
  induction stocks with
  | nil => exact .slnil
  | cons s rest ih =>
    rw [List.filterMap_cons]
    cases warehouses.findIdx? (·.id = s.warehouseId) with
    | none => exact ih.cons s
    | some position => exact ih.cons_cons s

end Shelf

/-- Demands are served from stocks of the store, no stock standing on two shelves. -/
theorem Tables.serve_takings (t : Tables) (demands : List Demand) (country : String)
    (channel : Channel) (only : Option WarehouseId) :
    ∃ before : List Stock, before.Subperm t.stocks ∧
      Shelf.Takings before (t.serve demands country channel only).shelves
        (t.serve demands country channel only).allocations := by
  have harranged := Shelf.arrange_stocks channel.allocationStrategy
    (t.warehousesServing channel.id country only) (t.stocksOf (demands.map (·.variant.id)))
  exact ⟨_, harranged.trans List.filter_sublist.subperm,
    Shelf.Takings.serve (fun _ => Shelf.taken_arrange) demands⟩

/-! ## Putting the shelves back -/

namespace Shelf

/-- The stocks with those put back that something was taken from. -/
def putBack (stocks : List Stock) : List Shelf → List Stock
  | [] => stocks
  | s :: rest => putBack (if s.taken = 0 then stocks else upsert (·.id) s.stock stocks) rest

/-- The stocks of which the last has been taken. -/
def emptied (shelves : List Shelf) : List Stock :=
  (shelves.filter fun s => s.taken ≠ 0 ∧ s.stock.available = 0).map (·.stock)

variable {stocks : List Stock} {shelves : List Shelf}

theorem map_id_putBack (h : ∀ s ∈ shelves, s.stock.id ∈ stocks.map (·.id)) :
    (putBack stocks shelves).map (·.id) = stocks.map (·.id) := by
  induction shelves generalizing stocks with
  | nil => rfl
  | cons s rest ih =>
    obtain ⟨hs, hrest⟩ := List.forall_mem_cons.1 h
    have hstep : (if s.taken = 0 then stocks else upsert (·.id) s.stock stocks).map (·.id) =
        stocks.map (·.id) := by
      split
      · rfl
      · exact map_upsert hs
    rw [putBack, ih (hstep ▸ hrest), hstep]

/-- A stock that was put back comes from its shelf. Any other is as it was, and no shelf has given
anything of it. -/
theorem mem_putBack {r : Stock} (hids : (stocks.map (·.id)).Nodup)
    (h : ∀ s ∈ shelves, s.stock.id ∈ stocks.map (·.id)) (hr : r ∈ putBack stocks shelves) :
    (∃ s ∈ shelves, s.taken ≠ 0 ∧ r = s.stock) ∨
      r ∈ stocks ∧ ∀ s ∈ shelves, s.stock.id = r.id → s.taken = 0 := by
  induction shelves generalizing stocks with
  | nil => exact .inr ⟨hr, fun _ hs => absurd hs List.not_mem_nil⟩
  | cons s rest ih =>
    obtain ⟨hs, hrest⟩ := List.forall_mem_cons.1 h
    rw [putBack] at hr
    by_cases htaken : s.taken = 0
    · rw [if_pos htaken] at hr
      rcases ih hids hrest hr with ⟨s', hs', hfrom⟩ | ⟨hold, hnone⟩
      · exact .inl ⟨s', List.mem_cons_of_mem _ hs', hfrom⟩
      · exact .inr ⟨hold, List.forall_mem_cons.2 ⟨fun _ => htaken, hnone⟩⟩
    · rw [if_neg htaken] at hr
      have hkeys : (upsert (·.id) s.stock stocks).map (·.id) = stocks.map (·.id) := map_upsert hs
      rcases ih (hkeys ▸ hids) (hkeys ▸ hrest) hr with ⟨s', hs', hfrom⟩ | ⟨hold, hnone⟩
      · exact .inl ⟨s', List.mem_cons_of_mem _ hs', hfrom⟩
      · rcases mem_upsert_of_nodup hids hold with rfl | ⟨hold, hne⟩
        · exact .inl ⟨s, List.mem_cons_self, htaken, rfl⟩
        · exact .inr ⟨hold, List.forall_mem_cons.2 ⟨fun heq => absurd heq.symm hne, hnone⟩⟩

end Shelf

/-! ## Accounts -/

/-- No stock is oversold, and what is allocated of each is what the allocations take of it. -/
structure Stock.Accounted (stocks : List Stock) (allocations : List Allocation) : Prop where
  bounded : ∀ s ∈ stocks, s.allocated ≤ s.quantity
  recorded : ∀ s ∈ stocks, s.allocated = Allocation.ofStock allocations s.id

namespace Shelf

variable {before stocks : List Stock} {shelves : List Shelf} {allocations new : List Allocation}

theorem takenOf_of_mem (hids : (shelves.map (·.stock.id)).Nodup) {s : Shelf} (hs : s ∈ shelves) :
    takenOf shelves s.stock.id = s.taken := by
  rw [takenOf, filter_key_of_mem (k := (·.stock.id)) hids hs]
  simp

theorem takenOf_eq_zero {id : StockId} (h : ∀ s ∈ shelves, s.stock.id = id → s.taken = 0) :
    takenOf shelves id = 0 := by
  induction shelves with
  | nil => rfl
  | cons s rest ih =>
    obtain ⟨hs, hrest⟩ := List.forall_mem_cons.1 h
    rw [takenOf_cons, ih hrest]
    split
    · rw [hs ‹_›]
    · rfl

namespace Takings

theorem map_id (h : Takings before shelves new) :
    shelves.map (·.stock.id) = before.map (·.id) := by
  rw [← h.untouched, List.map_map]
  rfl

/-- The stock that a shelf was filled with. -/
theorem untouched_mem (h : Takings before shelves new) {s : Shelf} (hs : s ∈ shelves) :
    s.untouched ∈ before := by
  rw [← h.untouched]
  exact List.mem_map_of_mem hs

theorem stock_id_mem (h : Takings before shelves new) (hsub : before.Subperm stocks) :
    ∀ s ∈ shelves, s.stock.id ∈ stocks.map (·.id) := fun s hs =>
  List.mem_map.2 ⟨s.untouched, hsub.subset (h.untouched_mem hs), rfl⟩

/-- **Serving demands keeps the accounts.** -/
theorem accounted (h : Takings before shelves new) (hsub : before.Subperm stocks)
    (hids : (stocks.map (·.id)).Nodup)
    (hstocks : Stock.Accounted stocks allocations) :
    Stock.Accounted (putBack stocks shelves) (allocations ++ new) := by
  have hbounded : ∀ s ∈ shelves, s.stock.allocated ≤ s.stock.quantity :=
    h.bounded fun s hs => hstocks.bounded s (hsub.subset hs)
  have hshelves : (shelves.map (·.stock.id)).Nodup := by
    rw [h.map_id]
    exact nodup_of_subperm hsub hids
  have hkeys := h.stock_id_mem hsub
  refine ⟨fun r hr => ?_, fun r hr => ?_⟩
  · rcases mem_putBack hids hkeys hr with ⟨s, hs, -, rfl⟩ | ⟨hold, -⟩
    · exact hbounded s hs
    · exact hstocks.bounded r hold
  · rw [Allocation.ofStock_append, ← h.recorded]
    rcases mem_putBack hids hkeys hr with ⟨s, hs, -, rfl⟩ | ⟨hold, hnone⟩
    · -- what the shelf has given comes on top of what was allocated before
      have hbefore : s.stock.allocated - s.taken = Allocation.ofStock allocations s.stock.id :=
        hstocks.recorded _ (hsub.subset (h.untouched_mem hs))
      have htaken := h.taken s hs
      rw [takenOf_of_mem hshelves hs, ← hbefore]
      omega
    · rw [takenOf_eq_zero hnone, hstocks.recorded r hold, Nat.add_zero]

end Takings

end Shelf

/-! ## The transactions -/

variable {s s' : Session} {demands : List Demand} {now : Moment}

theorem saveShelf_ok {shelf : Shelf} {u : Unit} (h : (saveShelf shelf).run s = (.ok u, s')) :
    s' = {
      tables := { s.tables with stocks := Shelf.putBack s.tables.stocks [shelf] }
      events := s.events ++ (Shelf.emptied [shelf]).map .outOfStock } := by
  unfold saveShelf at h
  by_cases htaken : shelf.taken = 0
  · rw [if_neg (not_not.2 htaken)] at h
    obtain ⟨-, rfl⟩ := Transaction.run_pure_ok h
    simp [Shelf.putBack, Shelf.emptied, htaken]
  · rw [if_pos htaken] at h
    by_cases hempty : shelf.stock.available = 0
    · rw [if_pos hempty] at h
      obtain ⟨_, _, hannounce, h⟩ := Transaction.run_bind_ok h
      obtain rfl := Transaction.onCommit_ok hannounce
      obtain rfl := Transaction.saveStock_ok h
      simp [Shelf.putBack, Shelf.emptied, htaken, hempty]
    · rw [if_neg hempty] at h
      obtain rfl := Transaction.saveStock_ok h
      simp [Shelf.putBack, Shelf.emptied, htaken, hempty]

theorem forM_saveShelf_ok {shelves : List Shelf} {u : Unit}
    (h : (shelves.forM saveShelf).run s = (.ok u, s')) :
    s' = {
      tables := { s.tables with stocks := Shelf.putBack s.tables.stocks shelves }
      events := s.events ++ (Shelf.emptied shelves).map .outOfStock } := by
  induction shelves generalizing s with
  | nil =>
    obtain ⟨-, rfl⟩ := Transaction.run_pure_ok h
    simp [Shelf.putBack, Shelf.emptied]
  | cons shelf rest ih =>
    obtain ⟨_, _, hshelf, h⟩ := Transaction.run_bind_ok h
    obtain rfl := saveShelf_ok hshelf
    rw [ih h, Session.mk.injEq]
    refine ⟨rfl, ?_⟩
    rw [List.append_assoc, ← List.map_append]
    simp only [Shelf.emptied, ← List.map_append, ← List.filter_append, List.singleton_append]

/-- The demands that are served from stock, and what serving them comes to. -/
def Tables.stockServing (t : Tables) (demands : List Demand) (country : String) (channel : Channel)
    (only : Option WarehouseId) (now : Moment) : Serving :=
  t.serve (demands.filter (·.isStocked now)) country channel only

/-- Serving demands of a store keeps its stocks in their places. -/
theorem Tables.map_id_putBack (t : Tables) (demands : List Demand) (country : String)
    (channel : Channel) (only : Option WarehouseId) (now : Moment) :
    (Shelf.putBack t.stocks (t.stockServing demands country channel only now).shelves).map (·.id) =
      t.stocks.map (·.id) := by
  obtain ⟨before, hsub, htakings⟩ :=
    t.serve_takings (demands.filter (·.isStocked now)) country channel only
  exact Shelf.map_id_putBack (htakings.stock_id_mem hsub)

/-- Serving demands of a store keeps its accounts. -/
theorem Tables.accounted_stockServing {t : Tables} (demands : List Demand) (country : String)
    (channel : Channel) (only : Option WarehouseId) (now : Moment)
    (hids : (t.stocks.map (·.id)).Nodup) (ht : Stock.Accounted t.stocks t.allocations) :
    Stock.Accounted
      (Shelf.putBack t.stocks (t.stockServing demands country channel only now).shelves)
      (t.allocations ++ (t.stockServing demands country channel only now).allocations) := by
  obtain ⟨before, hsub, htakings⟩ :=
    t.serve_takings (demands.filter (·.isStocked now)) country channel only
  exact htakings.accounted hsub hids ht

theorem allocateStocks_ok {country : String} {channel : Channel} {only : Option WarehouseId}
    {allocations : List Allocation}
    (h : (allocateStocks demands country channel only now).run s = (.ok allocations, s')) :
    let serving := s.tables.stockServing demands country channel only now
    serving.shortages = [] ∧ allocations = serving.allocations ∧
      s' = {
        tables := { s.tables with
          stocks := Shelf.putBack s.tables.stocks serving.shelves
          allocations := s.tables.allocations ++ serving.allocations }
        events := s.events ++ (Shelf.emptied serving.shelves).map .outOfStock } := by
  unfold allocateStocks at h
  unfold Tables.stockServing
  generalize demands.filter (·.isStocked now) = stocked at h ⊢
  cases stocked with
  | nil =>
    obtain ⟨rfl, rfl⟩ := Transaction.run_pure_ok h
    simp [Tables.serve, Tables.stocksOf, Shelf.arrange, Shelf.serve, Shelf.putBack, Shelf.emptied]
  | cons d rest =>
    have h := Transaction.run_tables_bind_ok h
    obtain ⟨hshort, h⟩ := Transaction.run_unless_ok h
    obtain ⟨_, _, hsave, h⟩ := Transaction.run_bind_ok h
    obtain rfl := forM_saveShelf_ok hsave
    obtain ⟨_, _, hinsert, h⟩ := Transaction.run_bind_ok h
    obtain rfl := Transaction.run_write_ok hinsert
    obtain ⟨rfl, rfl⟩ := Transaction.run_pure_ok h
    exact ⟨List.isEmpty_iff.1 hshort, rfl, rfl⟩

/-- The preorders that order lines are given for their demands. -/
def Demand.preorders (demands : List Demand) : List PreorderAllocation :=
  demands.filterMap fun d => d.orderLineId.map fun line => ⟨line, d.listing.id, d.quantity⟩

theorem allocatePreorders_ok {allocations : List PreorderAllocation}
    (h : (allocatePreorders demands now).run s = (.ok allocations, s')) :
    s.tables.preorderShortages (demands.filter (·.variant.isPreorderActive now)) = [] ∧
      allocations = Demand.preorders (demands.filter (·.variant.isPreorderActive now)) ∧
      s' = { s with tables := { s.tables with
        preorderAllocations := s.tables.preorderAllocations ++ allocations } } := by
  have h := Transaction.run_tables_bind_ok h
  obtain ⟨hshort, h⟩ := Transaction.run_unless_ok h
  obtain ⟨_, _, hinsert, h⟩ := Transaction.run_bind_ok h
  obtain rfl := Transaction.run_write_ok hinsert
  obtain ⟨rfl, rfl⟩ := Transaction.run_pure_ok h
  exact ⟨List.isEmpty_iff.1 hshort, rfl, rfl⟩

end Storefront
