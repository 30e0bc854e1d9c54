import Storefront.Checkout.Snapshot
import Storefront.Proofs.Stock.Supply

/-!
# Whether a pick-up point can be supplied

A pick-up point is offered where its stock covers each line of a cart by itself. The check of supply
adds up the lines of one variant, and for a point that serves from all warehouses it looks only at
those that ship to the country of the checkout. The two agree but for that.

* `Tables.mem_collectionPoints`: what is known of a point that is offered.
* `Tables.collectionPoint_supplied`: exactly when such a point can be supplied.
* `Tables.unsupplied_pantry`: two points that are offered and cannot be supplied.
-/

namespace Storefront

/-- The warehouses whose stock counts when a pick-up point is offered. -/
def Warehouse.pool (w : Warehouse) (warehouses : List Warehouse) : List Warehouse :=
  if w.clickAndCollect = .ownStock then [w] else warehouses

/-- Some of the warehouses have a stock of a variant, be it empty. -/
def Tables.Stocks (t : Tables) (warehouses : List Warehouse) (variant : VariantId) : Prop :=
  ∃ s ∈ t.stocks, s.variantId = variant ∧ ∃ w ∈ warehouses, w.id = s.warehouseId

namespace Tables

variable {t : Tables} {w : Warehouse} {warehouses : List Warehouse} {variant : VariantId}
  {lines : List CheckoutLine} {demands : List Demand} {country : String} {channel : Channel}
  {only : Option WarehouseId} {now : Moment} {address : Option Address}

theorem available?_eq_none : t.available? warehouses variant = none ↔
    ¬ t.Stocks warehouses variant := by
  simp [available?, Stocks, List.filter_eq_nil_iff]

theorem available?_le_supply :
    (t.available? warehouses variant).getD 0 ≤ t.supply warehouses variant := by
  rcases t.available?_cases warehouses variant with ⟨hnone, -⟩ | hsome
  · rw [hnone]
    exact Nat.zero_le _
  · rw [hsome]
    exact Nat.min_le_left _ _

theorem stocks_of_supply_pos (h : 0 < t.supply warehouses variant) :
    t.Stocks warehouses variant := by
  rcases t.available?_cases warehouses variant with ⟨-, hzero⟩ | hsome
  · omega
  · exact not_not.1 fun hnone => by simp [available?_eq_none.2 hnone] at hsome

/-- What is looked up in warehouses depends on their ids only. -/
theorem supply_congr {warehouses' : List Warehouse}
    (h : ∀ id, (∃ w ∈ warehouses, w.id = id) ↔ ∃ w ∈ warehouses', w.id = id)
    (variant : VariantId) : t.supply warehouses variant = t.supply warehouses' variant := by
  have hany (id : WarehouseId) : warehouses.any (·.id = id) = warehouses'.any (·.id = id) := by
    rw [Bool.eq_iff_iff]
    simpa using h id
  simp only [supply, hany]

/-! ## What is offered -/

/-- **A pick-up point that is offered** is a warehouse of the channel whose pool covers each line. -/
theorem mem_collectionPoints (h : w ∈ t.collectionPoints warehouses lines) :
    w ∈ warehouses ∧ w.clickAndCollect ≠ .disabled ∧
      ∀ l ∈ lines, l.quantity ≤ t.supply (w.pool warehouses) l.variant.id := by
  unfold collectionPoints at h
  dsimp only at h
  split at h
  · obtain ⟨hmem, hcovers⟩ := List.mem_filter.1 h
    unfold Warehouse.pool
    cases hkind : w.clickAndCollect with
    | disabled => simp [hkind] at hcovers
    | ownStock =>
      refine ⟨hmem, by decide, fun l hl => ?_⟩
      simp only [hkind, List.all_eq_true, decide_eq_true_eq] at hcovers
      refine (hcovers l hl).trans_eq ?_
      rw [if_pos rfl, supply]
      simp [Bool.and_comm, eq_comm]
    | allWarehouses =>
      refine ⟨hmem, by decide, fun l hl => ?_⟩
      simp only [hkind, List.all_eq_true, decide_eq_true_eq] at hcovers
      rw [if_neg (by decide)]
      exact Nat.le_trans (hcovers l hl) available?_le_supply
  · cases h

/-- The warehouses that the check of supply looks at for what is to be collected at `w`. -/
def suppliers (t : Tables) (w : Warehouse) (country : String) (channel : Channel) :
    List Warehouse :=
  t.warehousesServing channel.id country (Delivery.collectionPoint w none).warehouseFilter

/-- For a point with its own stock they are its pool. -/
theorem supply_suppliers_of_ownStock (hmem : w ∈ t.warehousesOf channel.id)
    (hown : w.clickAndCollect = .ownStock) (variant : VariantId) :
    t.supply (t.suppliers w country channel) variant =
      t.supply (w.pool (t.warehousesOf channel.id)) variant := by
  refine supply_congr (fun id => ?_) variant
  simp only [suppliers, Delivery.warehouseFilter, Warehouse.pool, hown, if_true,
    mem_warehousesServing, List.mem_singleton]
  constructor
  · rintro ⟨w', ⟨-, -, hid, -⟩, rfl⟩
    exact ⟨w, rfl, (hid _ rfl).symm⟩
  · rintro ⟨w', rfl, rfl⟩
    obtain ⟨hstored, hchannel⟩ := mem_warehousesOf.1 hmem
    exact ⟨w', ⟨hstored, hchannel, fun _ hid => Option.mem_some.1 hid, nofun⟩, rfl⟩

/-- For any other point they are its pool where all warehouses ship to the country. -/
theorem suppliers_of_shipsTo (hkind : w.clickAndCollect ≠ .ownStock)
    (hships : ∀ w' ∈ t.warehousesOf channel.id, w'.shipsTo country) :
    t.suppliers w country channel = w.pool (t.warehousesOf channel.id) := by
  rw [suppliers, Delivery.warehouseFilter, Warehouse.pool, if_neg hkind, if_neg hkind,
    warehousesServing, List.filter_eq_self.2 hships]

/-! ## What is checked -/

/-- Of demands that are not preordered only the stock is checked. -/
theorem checkSupply_iff (h : ∀ d ∈ demands, d.variant.isPreorderActive now = false) :
    t.checkSupply demands country channel only now = .ok () ↔
      ∀ d ∈ demands, d.quantity ≠ 0 →
        t.Stocks (t.warehousesServing channel.id country only) d.variant.id ∧
        (d.variant.trackInventory → Demand.requested demands d.variant.id ≤
          t.supply (t.warehousesServing channel.id country only) d.variant.id) := by
  have hcheck : t.checkSupply demands country channel only now = .ok () ↔
      t.stockShortages demands country channel only = [] := by
    have hpreorders : demands.filter (·.variant.isPreorderActive now) = [] := by
      simpa [List.filter_eq_nil_iff] using h
    have hstocked : demands.filter (fun d => !d.variant.isPreorderActive now) = demands := by
      simpa [List.filter_eq_self] using h
    unfold checkSupply
    rw [List.partition_eq_filter_filter]
    simp only [Function.comp_def, hpreorders, hstocked]
    simp [preorderShortages]
  rw [hcheck, stockShortages_eq_nil]
  refine forall_congr' fun d => forall_congr' fun _ => ?_
  rw [← or_iff_not_imp_left]
  refine or_congr_right ?_
  generalize t.warehousesServing channel.id country only = warehouses
  have hle : Demand.requested demands d.variant.id ≤ Quantity.largest := by
    rw [Demand.requested_eq]
    exact Nat.min_le_right _ _
  rcases t.available?_cases warehouses d.variant.id with ⟨hnone, -⟩ | hsome
  · simp [hnone, available?_eq_none.1 hnone]
  · have hstocks : t.Stocks warehouses d.variant.id :=
      not_not.1 fun hnone => by simp [available?_eq_none.2 hnone] at hsome
    simp [hsome, hstocks, hle]

/-- Where no two demands are for one variant, each asks for its own quantity only. -/
theorem requested_le_of_nodup (h : (demands.map (·.variant.id)).Nodup) {d : Demand}
    (hd : d ∈ demands) : Demand.requested demands d.variant.id ≤ d.quantity := by
  rw [Demand.requested_eq, Demand.asked, filter_key_of_mem (k := (·.variant.id)) h hd]
  simp

/-- **What an offered pick-up point can supply.** The lines pass the check of supply exactly when
the lines of each tracked variant together do not ask for more than the suppliers of the point have,
and, for a point that serves from all warehouses, one that ships to the country stocks each variant.
So they pass where no variant is on two lines and, for such a point, all warehouses of the channel
ship to the country. -/
theorem collectionPoint_supplied (t : Tables) (w : Warehouse) (lines : List CheckoutLine)
    (country : String) (channel : Channel) (address : Option Address) (now : Moment)
    (hoffered : w ∈ t.collectionPoints (t.warehousesOf channel.id) lines)
    (hstocked : ∀ l ∈ lines, l.variant.isPreorderActive now = false) :
    (t.checkSupply (lines.map (·.demand)) country channel
        (Delivery.collectionPoint w address).warehouseFilter now = .ok () ↔
      ∀ l ∈ lines, l.quantity ≠ 0 →
        (w.clickAndCollect = .ownStock ∨
          t.Stocks (t.suppliers w country channel) l.variant.id) ∧
        (l.variant.trackInventory → Demand.requested (lines.map (·.demand)) l.variant.id ≤
          t.supply (t.suppliers w country channel) l.variant.id)) ∧
    ((lines.map (·.variant.id)).Nodup →
      (w.clickAndCollect = .ownStock ∨ ∀ w' ∈ t.warehousesOf channel.id, w'.shipsTo country) →
      t.checkSupply (lines.map (·.demand)) country channel
        (Delivery.collectionPoint w address).warehouseFilter now = .ok ()) := by
  obtain ⟨hmem, -, hcovers⟩ := mem_collectionPoints hoffered
  have hcheck : t.checkSupply (lines.map (·.demand)) country channel
      (Delivery.collectionPoint w address).warehouseFilter now = .ok () ↔
      ∀ l ∈ lines, l.quantity ≠ 0 → t.Stocks (t.suppliers w country channel) l.variant.id ∧
        (l.variant.trackInventory → Demand.requested (lines.map (·.demand)) l.variant.id ≤
          t.supply (t.suppliers w country channel) l.variant.id) :=
    (checkSupply_iff (List.forall_mem_map.2 hstocked)).trans List.forall_mem_map
  -- where the suppliers are the pool, they have what each line asks for by itself
  have hpooled (hpool : ∀ variant, t.supply (t.suppliers w country channel) variant =
      t.supply (w.pool (t.warehousesOf channel.id)) variant) (l : CheckoutLine) (hl : l ∈ lines) :
      l.quantity ≤ t.supply (t.suppliers w country channel) l.variant.id :=
    (hpool l.variant.id).symm ▸ hcovers l hl
  refine ⟨hcheck.trans ?_, fun hvariants hships => hcheck.2 fun l hl hquantity => ?_⟩
  · refine forall_congr' fun l => forall_congr' fun hl => forall_congr' fun hquantity =>
      and_congr_left fun _ => ⟨.inr, fun h => h.elim (fun hown => ?_) id⟩
    have hline := hpooled (supply_suppliers_of_ownStock hmem hown) l hl
    exact stocks_of_supply_pos (Nat.lt_of_lt_of_le (Nat.pos_of_ne_zero hquantity) hline)
  · have hline : l.quantity ≤ t.supply (t.suppliers w country channel) l.variant.id := by
      by_cases hown : w.clickAndCollect = .ownStock
      · exact hpooled (supply_suppliers_of_ownStock hmem hown) l hl
      · refine hpooled (fun variant => ?_) l hl
        rw [suppliers_of_shipsTo hown (hships.resolve_left hown)]
    refine ⟨stocks_of_supply_pos (Nat.lt_of_lt_of_le (Nat.pos_of_ne_zero hquantity) hline),
      fun _ => Nat.le_trans ?_ hline⟩
    have hdemands : ((lines.map (·.demand)).map (·.variant.id)).Nodup := by
      rw [List.map_map]
      exact hvariants
    exact requested_le_of_nodup hdemands (List.mem_map_of_mem (f := CheckoutLine.demand) hl)

end Tables

/-! ## Five sacks of rice -/

namespace Pantry

/-- Rice that has to be shipped or collected. -/
def sack : Variant := { rice with isShippingRequired := true }

def line (quantity : Nat) : CheckoutLine where
  cart := ⟨sack.id, quantity⟩
  variant := sack
  listing := (demand 0 sack quantity).listing
  product := ⟨sack.productId, "Rice", none, []⟩
  price := ⟨1, .usd⟩

/-- A warehouse that ships to the country and has a pick-up point. -/
def counter (kind : ClickAndCollect) : Warehouse := { warehouse 5 0 with clickAndCollect := kind }

/-- The sacks are at the counter, or in a warehouse that does not ship to the country. -/
def sackTables (kind : ClickAndCollect) (isAbroad : Bool) : Tables where
  warehouses := [counter kind, { warehouse 6 1 with countries := ["CA"] }]
  stocks := [⟨⟨⟨7⟩⟩, ⟨⟨if isAbroad then 6 else 5⟩⟩, sack.id, 5, 0⟩]

end Pantry

namespace Tables

/-- Three sacks can be collected where they are. -/
theorem collectionPoint_supplied_pantry :
    Pantry.counter .ownStock ∈ (Pantry.sackTables .ownStock false).collectionPoints
        ((Pantry.sackTables .ownStock false).warehousesOf Pantry.channel.id) [Pantry.line 3] ∧
      (∀ l ∈ [Pantry.line 3], l.variant.isPreorderActive ⟨0⟩ = false) ∧
      (Pantry.sackTables .ownStock false).checkSupply ([Pantry.line 3].map (·.demand)) "US"
        Pantry.channel (Delivery.collectionPoint (Pantry.counter .ownStock) none).warehouseFilter
        ⟨0⟩ = .ok () := by
  have hoffered : Pantry.counter .ownStock ∈
      (Pantry.sackTables .ownStock false).collectionPoints
        ((Pantry.sackTables .ownStock false).warehousesOf Pantry.channel.id) [Pantry.line 3] :=
    of_decide_eq_true (by cbv)
  have hstocked : ∀ l ∈ [Pantry.line 3], l.variant.isPreorderActive ⟨0⟩ = false := by
    decide +kernel
  exact ⟨hoffered, hstocked, (collectionPoint_supplied (Pantry.sackTables .ownStock false)
    (Pantry.counter .ownStock) [Pantry.line 3] "US" Pantry.channel none ⟨0⟩ hoffered hstocked).2
    (by decide) (.inl rfl)⟩

/-- **Two pick-up points that are offered and cannot be supplied**: one with five sacks, where two
lines of the cart ask for three each, and one that serves from all warehouses, where the sacks are
in a warehouse that does not ship to the country. -/
theorem unsupplied_pantry :
    (Pantry.counter .ownStock ∈ (Pantry.sackTables .ownStock false).collectionPoints
        ((Pantry.sackTables .ownStock false).warehousesOf Pantry.channel.id)
        [Pantry.line 3, Pantry.line 3] ∧
      (Pantry.sackTables .ownStock false).checkSupply
        ([Pantry.line 3, Pantry.line 3].map (·.demand)) "US" Pantry.channel
        (Delivery.collectionPoint (Pantry.counter .ownStock) none).warehouseFilter ⟨0⟩ ≠ .ok ()) ∧
    (Pantry.counter .allWarehouses ∈ (Pantry.sackTables .allWarehouses true).collectionPoints
        ((Pantry.sackTables .allWarehouses true).warehousesOf Pantry.channel.id) [Pantry.line 3] ∧
      (Pantry.sackTables .allWarehouses true).checkSupply ([Pantry.line 3].map (·.demand)) "US"
        Pantry.channel
        (Delivery.collectionPoint (Pantry.counter .allWarehouses) none).warehouseFilter ⟨0⟩ ≠
        .ok ()) := by
  refine ⟨⟨?_, ?_⟩, ?_, ?_⟩ <;> exact of_decide_eq_true (by cbv)

end Tables

end Storefront
