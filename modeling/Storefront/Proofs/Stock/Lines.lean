import Storefront.Proofs.Stock.Supply

/-!
# What order lines get

Where all demands are served, each order line has been given what it asks for, from stocks of its
own variant, and the stocks have been lowered by just that.

* `Shelf.Served`: what a walk that misses nothing keeps true of the demands so far.
* `Tables.serve_served`: it holds of the demands of a store.
* `Shelf.Takings.putBack_eq`: the stocks afterwards, row by row.
-/

namespace Storefront

/-- What the allocations give to an order line. -/
def Allocation.ofLine (allocations : List Allocation) (line : OrderLineId) : Nat :=
  Quantity.total ((allocations.filter (·.orderLineId = line)).map (·.quantity))

/-- What an order line asks for. -/
def Demand.ofLine (demands : List Demand) (line : OrderLineId) : Nat :=
  Quantity.total ((demands.filter (·.orderLineId = some line)).map (·.quantity))

/-- The stock with what the allocations take of it. -/
def Stock.allocate (allocations : List Allocation) (s : Stock) : Stock :=
  { s with allocated := s.allocated + Allocation.ofStock allocations s.id }

theorem Allocation.ofLine_append (a b : List Allocation) (line : OrderLineId) :
    ofLine (a ++ b) line = ofLine a line + ofLine b line := by
  simp [ofLine]

/-- Allocations that are all of one line give nothing to another. -/
theorem Allocation.ofLine_eq {allocations : List Allocation} {line : OrderLineId}
    (h : ∀ x ∈ allocations, x.orderLineId = line) (other : OrderLineId) :
    ofLine allocations other =
      if line = other then Quantity.total (allocations.map (·.quantity)) else 0 := by
  split
  · rename_i heq
    rw [ofLine, List.filter_eq_self.2 fun x hx => by simpa using (h x hx).trans heq]
  · rename_i hne
    rw [ofLine, List.filter_eq_nil_iff.2 fun x hx => by simpa [h x hx] using hne]
    rfl

theorem Demand.ofLine_append (a b : List Demand) (line : OrderLineId) :
    ofLine (a ++ b) line = ofLine a line + ofLine b line := by
  simp [ofLine]

namespace Shelf

variable {only : Option WarehouseId} {shelves : List Shelf}

/-! ## One line -/

/-- A line draws from shelves of its variant. -/
theorem mem_draw {line : OrderLineId} {variant : VariantId} {missing : Nat} {x : Allocation}
    (h : x ∈ (draw line variant missing shelves).2.1) :
    x.orderLineId = line ∧
      ∃ s ∈ shelves, s.stock.id = x.stockId ∧ s.stock.variantId = variant := by
  induction shelves generalizing missing with
  | nil => cases h
  | cons s rest ih =>
    unfold draw at h
    by_cases hvariant : s.stock.variantId = variant
    · rw [if_pos hvariant] at h
      dsimp only at h
      split at h
      · obtain ⟨hline, s', hs', hfrom⟩ := ih h
        exact ⟨hline, s', List.mem_cons_of_mem _ hs', hfrom⟩
      · rcases List.mem_cons.1 h with rfl | h
        · exact ⟨rfl, s, List.mem_cons_self, rfl, hvariant⟩
        · obtain ⟨hline, s', hs', hfrom⟩ := ih h
          exact ⟨hline, s', List.mem_cons_of_mem _ hs', hfrom⟩
    · rw [if_neg hvariant] at h
      obtain ⟨hline, s', hs', hfrom⟩ := ih h
      exact ⟨hline, s', List.mem_cons_of_mem _ hs', hfrom⟩

/-- What a line draws and what it still misses are what it asks for. -/
theorem total_draw (line : OrderLineId) (variant : VariantId) (missing : Nat)
    (shelves : List Shelf) :
    Quantity.total ((draw line variant missing shelves).2.1.map (·.quantity)) +
      (draw line variant missing shelves).2.2 = missing := by
  induction shelves generalizing missing with
  | nil => exact Nat.zero_add missing
  | cons s rest ih =>
    unfold draw
    generalize hquantity : (if s.stock.variantId = variant then min missing s.stock.available
      else 0) = quantity
    have hle : quantity ≤ missing := by
      rw [← hquantity]
      split
      · exact Nat.min_le_left _ _
      · exact Nat.zero_le _
    by_cases hzero : quantity = 0
    · simpa [hzero] using ih missing
    · simp only [if_neg hzero, List.map_cons, Quantity.total_cons, Nat.add_assoc]
      exact (congrArg (quantity + ·) (ih (missing - quantity))).trans (Nat.add_sub_of_le hle)

/-! ## All lines -/

/-- What is true once the given demands have all been served from the given stocks. -/
structure Served (stocks : List Stock) (done : List Demand) (state : Serving) : Prop where
  /-- The stock on a shelf is one of the store, but for what has been allocated of it. -/
  filled : ∀ s ∈ state.shelves, ∃ r ∈ stocks, r.id = s.stock.id ∧ r.variantId = s.stock.variantId
  ofLine : ∀ line, Allocation.ofLine state.allocations line = Demand.ofLine done line
  /-- An allocation is of a line of the demands, from a stock of its variant. -/
  source : ∀ x ∈ state.allocations, ∃ d ∈ done, d.orderLineId = some x.orderLineId ∧
    ∃ r ∈ stocks, r.id = x.stockId ∧ r.variantId = d.variant.id

namespace Served

variable {stocks : List Stock} {done : List Demand} {state : Serving}

theorem serveOne (h : Served stocks done state) {d : Demand} (hd : d.orderLineId.isSome)
    (hserved : (Shelf.serveOne only state d).shortages = []) :
    Served stocks (done ++ [d]) (Shelf.serveOne only state d) := by
  have henough := ((serveOne_shortages hd).1 hserved).2
  obtain ⟨line, hline⟩ := Option.isSome_iff_exists.1 hd
  have hdraws := draws_draw line d.variant.id d.quantity state.shelves
  have hmissing : (draw line d.variant.id d.quantity state.shelves).2.2 = 0 := by
    rw [missing_draw]
    omega
  simp only [Shelf.serveOne, hline]
  constructor
  · exact hdraws.forall_mem h.filled fun _ _ _ hs => hs
  · intro other
    have htotal := total_draw line d.variant.id d.quantity state.shelves
    have hone : Demand.ofLine [d] other = if line = other then d.quantity else 0 := by
      by_cases hother : line = other <;> simp [Demand.ofLine, hline, hother]
    rw [Allocation.ofLine_append, Demand.ofLine_append, h.ofLine,
      Allocation.ofLine_eq fun x hx => (mem_draw hx).1, hone]
    split <;> omega
  · intro x hx
    rcases List.mem_append.1 hx with hold | hnew
    · obtain ⟨e, he, hfrom⟩ := h.source x hold
      exact ⟨e, List.mem_append_left _ he, hfrom⟩
    · obtain ⟨hof, s, hs, hid, hvariant⟩ := mem_draw hnew
      obtain ⟨r, hr, hr_id, hr_variant⟩ := h.filled s hs
      exact ⟨d, by simp, by rw [hline, hof], r, hr, hr_id.trans hid, hr_variant.trans hvariant⟩

theorem serve {demands : List Demand} (h : Served stocks done state)
    (hlines : ∀ d ∈ demands, d.orderLineId.isSome)
    (hserved : (demands.foldl (Shelf.serveOne only) state).shortages = []) :
    Served stocks (done ++ demands) (demands.foldl (Shelf.serveOne only) state) := by
  induction demands generalizing done state with
  | nil => simpa using h
  | cons d rest ih =>
    obtain ⟨hd, hrest⟩ := List.forall_mem_cons.1 hlines
    have hfirst := ((foldl_serveOne_shortages hrest _).1 hserved).1
    rw [List.append_cons]
    exact ih (h.serveOne hd hfirst) hrest hserved

end Served

/-- What stands on a shelf is the stock it was filled with, and what has been allocated of that. -/
theorem Takings.allocate_untouched {before : List Stock} {new : List Allocation}
    (h : Takings before shelves new) (hids : (before.map (·.id)).Nodup) {s : Shelf}
    (hs : s ∈ shelves) : s.untouched.allocate new = s.stock := by
  have hof : Allocation.ofStock new s.stock.id = s.taken := by
    rw [← h.recorded, takenOf_of_mem (h.map_id ▸ hids) hs]
  simp [Stock.allocate, Shelf.untouched, hof, Nat.sub_add_cancel (h.taken s hs)]

/-- **The stocks afterwards** are those before with what has been allocated of each. -/
theorem Takings.putBack_eq {before stocks : List Stock} {new : List Allocation}
    (h : Takings before shelves new) (hsub : before.Subperm stocks)
    (hids : (stocks.map (·.id)).Nodup) : putBack stocks shelves = stocks.map (Stock.allocate new) := by
  have hkeys := h.stock_id_mem hsub
  refine eq_map_of_key hids (map_id_putBack hkeys) fun r hr => ?_
  rcases mem_putBack hids hkeys hr with ⟨s, hs, -, rfl⟩ | ⟨hold, hnone⟩
  · have hallocated := h.allocate_untouched (nodup_of_subperm hsub hids) hs
    exact ⟨s.untouched, hsub.subset (h.untouched_mem hs), rfl, hallocated.symm⟩
  · refine ⟨r, hold, rfl, ?_⟩
    have hof : Allocation.ofStock new r.id = 0 := by rw [← h.recorded, takenOf_eq_zero hnone]
    simp [Stock.allocate, hof]

end Shelf

namespace Tables

variable {t : Tables} {demands : List Demand} {country : String} {channel : Channel}
  {only : Option WarehouseId} {now : Moment}

/-- Where nothing is short, all demands of a store are served from its stocks. -/
theorem serve_served (hlines : ∀ d ∈ demands, d.orderLineId.isSome)
    (hserved : (t.serve demands country channel only).shortages = []) :
    Shelf.Served t.stocks demands (t.serve demands country channel only) := by
  have hstart : Shelf.Served t.stocks [] {
      shelves := Shelf.arrange channel.allocationStrategy
        (t.warehousesServing channel.id country only)
        (t.stocksOf (demands.map (·.variant.id))) } := by
    refine ⟨fun s hs => ?_, fun _ => rfl, fun _ hx => nomatch hx⟩
    obtain ⟨r, hr, hshelf⟩ := List.mem_filterMap.1 (List.mem_mergeSort.1 hs)
    obtain ⟨_, -, rfl⟩ := Option.map_eq_some_iff.1 hshelf
    exact ⟨r, (List.mem_filter.1 hr).1, rfl, rfl⟩
  exact hstart.serve hlines hserved

/-- The stocks of a store afterwards. -/
theorem putBack_stockServing (hids : (t.stocks.map (·.id)).Nodup) :
    Shelf.putBack t.stocks (t.stockServing demands country channel only now).shelves =
      t.stocks.map
        (Stock.allocate (t.stockServing demands country channel only now).allocations) := by
  obtain ⟨before, hsub, htakings⟩ :=
    t.serve_takings (demands.filter (·.isStocked now)) country channel only
  exact htakings.putBack_eq hsub hids

end Tables

end Storefront
