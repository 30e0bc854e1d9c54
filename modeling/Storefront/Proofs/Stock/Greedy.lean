import Mathlib.Data.List.Pairwise
import Storefront.Proofs.Stock.Lines

/-!
# Allocation is exact and greedy

Demands are served completely or not at all. Each takes what it asks for, from the stocks of its
variant in their order: it goes on to the next only where a stock has nothing left.

* `Shelf.Emptying`: no shelf has given anything while one before it has something left.
* `Shelf.draw_emptying`, `Shelf.serve_emptying`: one demand and all demands keep it.
* `Demand.MetBy`, `Shelf.foldl_serveOne_met`: what has been allocated, demand by demand.
* `Allotment`, `allocateStocks_greedy`: **what the transaction does**.
-/

namespace Storefront

/-! ## The order of the stocks -/

/-- The stock that is drawn from first: the one whose warehouse stands first, or the one of which
there is more, and then the one whose warehouse stands first. -/
def Stock.IsBefore (strategy : AllocationStrategy) (warehouses : List Warehouse)
    (a b : Stock) : Prop :=
  ∃ i j, warehouses.findIdx? (·.id = a.warehouseId) = some i ∧
    warehouses.findIdx? (·.id = b.warehouseId) = some j ∧
    match strategy with
    | .sortingOrder => i < j
    | .highStock => b.available < a.available ∨ a.available = b.available ∧ i < j

namespace Shelf

theorem precedes_trans (strategy : AllocationStrategy) (a b c : Shelf)
    (hab : precedes strategy a b = true) (hbc : precedes strategy b c = true) :
    precedes strategy a c = true := by
  cases strategy <;> simp only [precedes, decide_eq_true_eq, Bool.or_eq_true, Bool.and_eq_true] at *
    <;> omega

theorem precedes_total (strategy : AllocationStrategy) (a b : Shelf) :
    (precedes strategy a b || precedes strategy b a) = true := by
  cases strategy <;> simp only [precedes, decide_eq_true_eq, Bool.or_eq_true, Bool.and_eq_true]
    <;> omega

/-- What is drawn from first does not stand behind the other. -/
theorem not_precedes {strategy : AllocationStrategy} {warehouses : List Warehouse} {a b : Shelf}
    (ha : warehouses.findIdx? (·.id = a.stock.warehouseId) = some a.position)
    (hb : warehouses.findIdx? (·.id = b.stock.warehouseId) = some b.position)
    (h : a.stock.IsBefore strategy warehouses b.stock) : ¬precedes strategy b a = true := by
  obtain ⟨i, j, hi, hj, hbefore⟩ := h
  obtain rfl := Option.some.inj (ha.symm.trans hi)
  obtain rfl := Option.some.inj (hb.symm.trans hj)
  cases strategy <;> simp only [precedes, decide_eq_true_eq, Bool.or_eq_true, Bool.and_eq_true]
    at hbefore ⊢ <;> omega

/-- The shelves of a store stand in the order of the strategy. -/
theorem pairwise_arrange (strategy : AllocationStrategy) (warehouses : List Warehouse)
    (stocks : List Stock) :
    (arrange strategy warehouses stocks).Pairwise fun a b => precedes strategy a b = true :=
  List.pairwise_mergeSort (precedes_trans strategy) (precedes_total strategy) _

theorem mem_arrange {strategy : AllocationStrategy} {warehouses : List Warehouse}
    {stocks : List Stock} {s : Shelf} :
    s ∈ arrange strategy warehouses stocks ↔ s.stock ∈ stocks ∧ s.taken = 0 ∧
      warehouses.findIdx? (·.id = s.stock.warehouseId) = some s.position := by
  rw [arrange, List.mem_mergeSort, List.mem_filterMap]
  constructor
  · rintro ⟨r, hr, hshelf⟩
    obtain ⟨position, hposition, rfl⟩ := Option.map_eq_some_iff.1 hshelf
    exact ⟨hr, rfl, hposition⟩
  · rintro ⟨hr, htaken, hposition⟩
    exact ⟨s.stock, hr, by rw [hposition, ← htaken]; rfl⟩

/-! ## Emptying shelf after shelf -/

/-- No shelf has given anything while one of the same variant before it has something left. -/
def Emptying (shelves : List Shelf) : Prop :=
  shelves.Pairwise fun a b =>
    a.stock.variantId = b.stock.variantId → b.taken ≠ 0 → a.stock.available = 0

variable {line : OrderLineId} {variant : VariantId} {missing : Nat} {s : Shelf}
  {rest shelves : List Shelf}

/-- What a shelf gives of the quantity of a variant that is missing. -/
def gives (s : Shelf) (variant : VariantId) (missing : Nat) : Nat :=
  if s.stock.variantId = variant then min missing s.stock.available else 0

theorem take_zero (s : Shelf) : s.take 0 = s := rfl

theorem draw_cons (line : OrderLineId) (variant : VariantId) (missing : Nat) (s : Shelf)
    (rest : List Shelf) :
    draw line variant missing (s :: rest) =
      let others := draw line variant (missing - s.gives variant missing) rest
      (s.take (s.gives variant missing) :: others.1,
        (if s.gives variant missing = 0 then []
          else [⟨line, s.stock.id, s.gives variant missing⟩]) ++ others.2.1,
        others.2.2) := by
  rw [draw, ← gives]
  dsimp only
  by_cases hzero : s.gives variant missing = 0
  · rw [if_pos hzero, if_pos hzero, hzero, take_zero, List.nil_append]
  · rw [if_neg hzero, if_neg hzero]
    rfl

/-- Only shelves of the variant change, and only where something is missing. -/
theorem mem_or_of_mem_draw {b : Shelf} (h : b ∈ (draw line variant missing shelves).1) :
    b ∈ shelves ∨ b.stock.variantId = variant ∧ missing ≠ 0 := by
  induction shelves generalizing missing with
  | nil => cases h
  | cons s rest ih =>
    rw [draw_cons] at h
    rcases List.mem_cons.1 h with rfl | h
    · by_cases hgives : s.gives variant missing = 0
      · rw [hgives]
        exact .inl List.mem_cons_self
      · unfold gives at hgives
        split at hgives
        · rename_i hvariant
          exact .inr ⟨hvariant, by omega⟩
        · exact absurd rfl hgives
    · rcases ih h with hmem | ⟨hvariant, hmissing⟩
      · exact .inl (List.mem_cons_of_mem _ hmem)
      · exact .inr ⟨hvariant, by omega⟩

/-- **A demand goes on to the next shelf only where a shelf has nothing left.** -/
theorem draw_emptying (h : Emptying shelves) :
    Emptying (draw line variant missing shelves).1 := by
  induction shelves generalizing missing with
  | nil => exact .nil
  | cons s rest ih =>
    obtain ⟨hs, hrest⟩ := List.pairwise_cons.1 h
    rw [draw_cons]
    refine List.pairwise_cons.2 ⟨fun b hb hvariant htaken => ?_, ih hrest⟩
    rw [available_take]
    -- what a shelf behind has given, it has given before, or this one has been emptied now
    rcases mem_or_of_mem_draw hb with hmem | ⟨hof, hmissing⟩
    · rw [hs b hmem hvariant htaken, Nat.zero_sub]
    · have hgives : s.gives variant missing = min missing s.stock.available :=
        if_pos (hvariant.trans hof)
      omega

/-! ## All demands -/

variable {only : Option WarehouseId} {demands : List Demand}

/-- What each line keeps true when it draws from shelves is true of them in the end. -/
theorem foldl_serveOne_induction {P : List Shelf → Prop}
    (hdraw : ∀ line variant missing shelves, P shelves → P (draw line variant missing shelves).1)
    {state : Serving} (h : P state.shelves) : P (demands.foldl (serveOne only) state).shelves := by
  induction demands generalizing state with
  | nil => exact h
  | cons d rest ih =>
    refine ih ?_
    unfold serveOne
    split
    · exact h
    · exact hdraw _ _ _ _ h

/-- **All demands empty shelf after shelf.** -/
theorem serve_emptying (h : ∀ s ∈ shelves, s.taken = 0) :
    Emptying (serve only shelves demands).shelves :=
  foldl_serveOne_induction (P := Emptying) (fun _ _ _ _ => draw_emptying)
    (List.pairwise_of_forall_mem_list fun _ _ b hb _ htaken => absurd (h b hb) htaken)

/-- The shelf before anything was taken. -/
def reset (s : Shelf) : Shelf := { s with stock := s.untouched, taken := 0 }

theorem reset_take (s : Shelf) (quantity : Nat) : (s.take quantity).reset = s.reset := by
  rw [reset, untouched_take]
  rfl

theorem map_reset_draw (line : OrderLineId) (variant : VariantId) (missing : Nat)
    (shelves : List Shelf) :
    (draw line variant missing shelves).1.map reset = shelves.map reset := by
  induction shelves generalizing missing with
  | nil => rfl
  | cons s rest ih =>
    rw [draw_cons, List.map_cons, List.map_cons, reset_take]
    exact congrArg _ (ih _)

/-- Shelves stay in their places. -/
theorem map_reset_serve (h : ∀ s ∈ shelves, s.taken = 0) :
    (serve only shelves demands).shelves.map reset = shelves := by
  have hreset : shelves.map reset = shelves := by
    refine (List.map_congr_left fun s hs => ?_).trans (List.map_id shelves)
    rw [reset, untouched, h s hs]
    exact congrArg (Shelf.mk _ _) (h s hs).symm
  exact foldl_serveOne_induction (P := fun final => final.map reset = shelves)
    (fun _ _ _ _ hsame => (map_reset_draw _ _ _ _).trans hsame) hreset

/-- A shelf is not filled beyond what its stock has, unless it was before. -/
theorem allocated_le_serve (h : ∀ s ∈ shelves, s.taken = 0) :
    ∀ s ∈ (serve only shelves demands).shelves,
      s.stock.allocated ≤ max s.stock.quantity s.untouched.allocated := by
  have hlimited : ∀ s ∈ (serve only shelves demands).shelves, s.taken ≤ s.stock.allocated ∧
      s.stock.allocated ≤ max s.stock.quantity s.untouched.allocated := by
    refine foldl_serveOne_induction (P := fun final => ∀ s ∈ final, s.taken ≤ s.stock.allocated ∧
      s.stock.allocated ≤ max s.stock.quantity s.untouched.allocated) ?_ ?_
    · intro line variant missing shelves hall
      refine (draws_draw line variant missing shelves).forall_mem hall ?_
      intro s quantity hquantity ⟨htaken, hlimit⟩
      rw [untouched_take]
      refine ⟨Nat.add_le_add_right htaken quantity, ?_⟩
      show s.stock.allocated + quantity ≤ max s.stock.quantity s.untouched.allocated
      -- only what is available is taken, and nothing is where the stock is oversold
      unfold Stock.available at hquantity
      omega
    · intro s hs
      simp [untouched, h s hs]
  exact fun s hs => (hlimited s hs).2

/-- **What stands before a shelf that has given something is empty.** -/
theorem available_of_isBefore {strategy : AllocationStrategy} {warehouses : List Warehouse}
    {stocks : List Stock} {final : List Shelf} {a b : Shelf}
    (hreset : final.map reset = arrange strategy warehouses stocks) (hfinal : Emptying final)
    (ha : a ∈ final) (hb : b ∈ final) (hvariant : a.stock.variantId = b.stock.variantId)
    (htaken : b.taken ≠ 0) (h : a.untouched.IsBefore strategy warehouses b.untouched) :
    a.stock.available = 0 := by
  have hplace {s : Shelf} (hs : s ∈ final) :
      warehouses.findIdx? (·.id = s.reset.stock.warehouseId) = some s.reset.position :=
    (mem_arrange.1 (hreset ▸ List.mem_map_of_mem hs)).2.2
  have hbehind : ¬precedes strategy b.reset a.reset = true := not_precedes (hplace ha) (hplace hb) h
  have hsorted : final.Pairwise fun a b => precedes strategy a.reset b.reset = true := by
    rw [← List.pairwise_map (f := reset) (R := fun a b => precedes strategy a b = true), hreset]
    exact pairwise_arrange strategy warehouses stocks
  have hne : a ≠ b := by
    rintro rfl
    exact hbehind (by simpa using precedes_total strategy a.reset a.reset)
  let Related (a b : Shelf) : Prop := precedes strategy a.reset b.reset = true ∧
    (a.stock.variantId = b.stock.variantId → b.taken ≠ 0 → a.stock.available = 0)
  let hsymm : Std.Symm fun a b => Related a b ∨ Related b a := ⟨fun _ _ => Or.symm⟩
  have hrelated : final.Pairwise fun a b => Related a b ∨ Related b a :=
    (hsorted.and hfinal).imp Or.inl
  rcases hrelated.forall ha hb hne with ⟨-, hempty⟩ | ⟨hprecedes, -⟩
  · exact hempty hvariant htaken
  · exact absurd hprecedes hbehind

end Shelf

/-! ## Demand by demand -/

/-- The demand has been met by these allocations, from the given stocks. -/
structure Demand.MetBy (stocks : List Stock) (d : Demand) (allocations : List Allocation) :
    Prop where
  line : ∀ x ∈ allocations, d.orderLineId = some x.orderLineId
  total : Quantity.total (allocations.map (·.quantity)) = d.quantity
  positive : ∀ x ∈ allocations, 0 < x.quantity
  source : ∀ x ∈ allocations, ∃ r ∈ stocks, r.id = x.stockId ∧ r.variantId = d.variant.id

namespace Shelf

variable {stocks : List Stock} {only : Option WarehouseId} {demands : List Demand}

theorem draw_positive {line : OrderLineId} {variant : VariantId} {missing : Nat}
    {shelves : List Shelf} : ∀ x ∈ (draw line variant missing shelves).2.1, 0 < x.quantity := by
  induction shelves generalizing missing with
  | nil => simp [draw]
  | cons s rest ih =>
    rw [draw_cons]
    refine List.forall_mem_append.2 ⟨?_, ih⟩
    split
    · simp
    · rename_i hzero
      simpa using Nat.pos_of_ne_zero hzero

/-- What a line draws meets its demand, if nothing is missing. -/
theorem draw_met {d : Demand} {line : OrderLineId} {shelves : List Shelf}
    (hline : d.orderLineId = some line) (hfilled : ∀ s ∈ shelves, s.untouched ∈ stocks)
    (hmissing : (draw line d.variant.id d.quantity shelves).2.2 = 0) :
    d.MetBy stocks (draw line d.variant.id d.quantity shelves).2.1 where
  line x hx := hline.trans (congrArg some (mem_draw hx).1.symm)
  total := by simpa [hmissing] using total_draw line d.variant.id d.quantity shelves
  positive := draw_positive
  source x hx := by
    obtain ⟨-, s, hs, hid, hvariant⟩ := mem_draw hx
    exact ⟨s.untouched, hfilled s hs, hid, hvariant⟩

theorem foldl_serveOne_met (hlines : ∀ d ∈ demands, d.orderLineId.isSome) {state : Serving}
    (hfilled : ∀ s ∈ state.shelves, s.untouched ∈ stocks)
    (hserved : (demands.foldl (serveOne only) state).shortages = []) :
    ∃ blocks, (demands.foldl (serveOne only) state).allocations =
        state.allocations ++ blocks.flatten ∧
      List.Forall₂ (Demand.MetBy stocks) demands blocks := by
  induction demands generalizing state with
  | nil => exact ⟨[], by simp, .nil⟩
  | cons d rest ih =>
    obtain ⟨hd, hrest⟩ := List.forall_mem_cons.1 hlines
    obtain ⟨line, hline⟩ := Option.isSome_iff_exists.1 hd
    have hfirst := ((foldl_serveOne_shortages hrest _).1 hserved).1
    have henough := ((serveOne_shortages hd).1 hfirst).2
    have hmissing : (draw line d.variant.id d.quantity state.shelves).2.2 = 0 := by
      rw [missing_draw]
      omega
    have hone : (serveOne only state d).shelves =
        (draw line d.variant.id d.quantity state.shelves).1 := by
      simp only [serveOne, hline]
    have hfilled' : ∀ s ∈ (serveOne only state d).shelves, s.untouched ∈ stocks := by
      rw [hone]
      exact (draws_draw line d.variant.id d.quantity state.shelves).forall_mem hfilled
        fun s quantity _ hs => (untouched_take s quantity).symm ▸ hs
    obtain ⟨blocks, hblocks, hmet⟩ := ih hrest hfilled' hserved
    refine ⟨_ :: blocks, ?_, .cons (draw_met hline hfilled hmissing) hmet⟩
    rw [List.foldl_cons, hblocks, List.flatten_cons, ← List.append_assoc]
    simp only [serveOne, hline]

/-- Demands without an order line take nothing. -/
theorem foldl_serveOne_filter (state : Serving) :
    demands.foldl (serveOne only) state =
      (demands.filter (·.orderLineId.isSome)).foldl (serveOne only) state := by
  rw [List.foldl_filter]
  refine congrArg (fun step => demands.foldl step state) (funext fun state => funext fun d => ?_)
  cases hline : d.orderLineId with
  | none => simp [serveOne, hline]
  | some line => simp

end Shelf

theorem Demand.MetBy.ofLine {stocks : List Stock} {demands : List Demand}
    {blocks : List (List Allocation)} (h : List.Forall₂ (Demand.MetBy stocks) demands blocks)
    (hlines : ∀ d ∈ demands, d.orderLineId.isSome) (line : OrderLineId) :
    Allocation.ofLine blocks.flatten line = Demand.ofLine demands line := by
  induction h with
  | nil => rfl
  | @cons d block rest _ hmet _ ih =>
    obtain ⟨hd, hrest⟩ := List.forall_mem_cons.1 hlines
    obtain ⟨own, hown⟩ := Option.isSome_iff_exists.1 hd
    have hblock : ∀ x ∈ block, x.orderLineId = own := fun x hx =>
      Option.some.inj ((hmet.line x hx).symm.trans hown)
    have hone : Demand.ofLine [d] line = if own = line then d.quantity else 0 := by
      by_cases hother : own = line <;> simp [Demand.ofLine, hown, hother]
    rw [List.flatten_cons, Allocation.ofLine_append, ih hrest, Allocation.ofLine_eq hblock,
      hmet.total, ← hone, ← Demand.ofLine_append, List.singleton_append]

/-! ## The transaction -/

/-- What has been allocated from the stocks in some warehouses, which demands with order lines have
been met with in the order of a strategy. -/
structure Allotment (strategy : AllocationStrategy) (warehouses : List Warehouse)
    (stocks : List Stock) (demands : List Demand) (allocations : List Allocation) : Prop where
  /-- Each demand is met on its own, from stocks of its variant in the warehouses. -/
  met : ∃ blocks, allocations = blocks.flatten ∧
    List.Forall₂ (Demand.MetBy (stocks.filter fun r => warehouses.any (·.id = r.warehouseId)))
      demands blocks
  /-- An order line is given what it asks for. -/
  ofLine : ∀ line, Allocation.ofLine allocations line = Demand.ofLine demands line
  /-- No stock is oversold that was not before. -/
  bounded : ∀ r ∈ stocks, (r.allocate allocations).allocated ≤ max r.quantity r.allocated
  /-- What comes before a stock that is drawn from has nothing left. -/
  greedy : ∀ x ∈ allocations, ∀ b ∈ stocks, b.id = x.stockId →
    ∀ a ∈ stocks, a.variantId = b.variantId → a.IsBefore strategy warehouses b →
      (a.allocate allocations).available = 0

section

variable {s : Session} {demands : List Demand} {country : String} {channel : Channel}
  {only : Option WarehouseId} {now : Moment}

/-- The demands that take stock: those for tracked stock that have an order line. -/
def Demand.takesStock (now : Moment) (d : Demand) : Bool :=
  d.orderLineId.isSome && d.isStocked now

/-- What is allocated of a stock is taken from its shelf. -/
theorem Shelf.Takings.allocate_cases {before stocks : List Stock} {shelves : List Shelf}
    {new : List Allocation} (h : Takings before shelves new) (hsub : before.Subperm stocks)
    (hids : (stocks.map (·.id)).Nodup) {r : Stock} (hr : r ∈ stocks) :
    (∃ x ∈ shelves, x.untouched = r ∧ x.stock = r.allocate new) ∨
      Allocation.ofStock new r.id = 0 := by
  by_cases hshelf : ∃ x ∈ shelves, x.stock.id = r.id
  · obtain ⟨x, hx, hid⟩ := hshelf
    have hsame : x.untouched = r :=
      List.inj_on_of_nodup_map hids (hsub.subset (h.untouched_mem hx)) hr hid
    have hallocate := h.allocate_untouched (nodup_of_subperm hsub hids) hx
    exact .inl ⟨x, hx, hsame, (hsame ▸ hallocate).symm⟩
  · right
    rw [← h.recorded]
    exact takenOf_eq_zero fun x hx hid => absurd ⟨x, hx, hid⟩ hshelf

/-- What an allocation takes stands on a shelf that has given something. -/
theorem Shelf.Takings.exists_of_mem {before : List Stock} {shelves : List Shelf}
    {new : List Allocation} (h : Takings before shelves new) {x : Allocation} (hx : x ∈ new)
    (hpositive : 0 < x.quantity) : ∃ y ∈ shelves, y.stock.id = x.stockId ∧ y.taken ≠ 0 := by
  by_contra hnone
  have hnothing : Allocation.ofStock new x.stockId = 0 := by
    rw [← h.recorded]
    exact takenOf_eq_zero fun y hy hid => by_contra fun htaken => hnone ⟨y, hy, hid, htaken⟩
  have hle : x.quantity ≤ Allocation.ofStock new x.stockId :=
    Quantity.le_total_of_mem (List.mem_map_of_mem (List.mem_filter.2 ⟨hx, by simp⟩))
  omega

namespace Shelf

variable {t : Tables} {strategy : AllocationStrategy} {warehouses : List Warehouse}
  {variants : List VariantId} {final : Serving}

/-- A shelf that nothing was taken from holds a stock of the store that stands in one of the
warehouses. -/
theorem untouched_mem_of_arrange {x : Shelf}
    (hx : x ∈ arrange strategy warehouses (t.stocksOf variants)) :
    x.untouched ∈ t.stocks.filter fun r => warehouses.any (·.id = r.warehouseId) := by
  obtain ⟨hstock, htaken, hplace⟩ := mem_arrange.1 hx
  have huntouched : x.untouched = x.stock := by simp [untouched, htaken]
  rw [huntouched]
  refine List.mem_filter.2 ⟨List.mem_of_mem_filter hstock, ?_⟩
  rw [← List.findIdx?_isSome, hplace]
  rfl

/-- **What comes before a stock that is drawn from has nothing left**, if it is of the same
variant. -/
theorem available_allocate (hids : (t.stocks.map (·.id)).Nodup)
    (hfinal : serve only (arrange strategy warehouses (t.stocksOf variants)) demands = final)
    {x : Allocation} (hx : x ∈ final.allocations) (hpositive : 0 < x.quantity) {a b : Stock}
    (ha : a ∈ t.stocks) (hb : b ∈ t.stocks) (hid : b.id = x.stockId)
    (hvariant : a.variantId = b.variantId) (hbefore : a.IsBefore strategy warehouses b) :
    (a.allocate final.allocations).available = 0 := by
  have hstart : ∀ y ∈ arrange strategy warehouses (t.stocksOf variants), y.taken = 0 :=
    fun _ => taken_arrange
  have htakings : Takings ((arrange strategy warehouses (t.stocksOf variants)).map (·.stock))
      final.shelves final.allocations := hfinal ▸ Takings.serve hstart demands
  have hreset : final.shelves.map reset = arrange strategy warehouses (t.stocksOf variants) :=
    hfinal ▸ map_reset_serve hstart
  have hemptying : Emptying final.shelves := hfinal ▸ serve_emptying hstart
  have hsub := (arrange_stocks strategy warehouses (t.stocksOf variants)).trans
    List.filter_sublist.subperm
  obtain ⟨y, hy, hyid, htaken⟩ := htakings.exists_of_mem hx hpositive
  have hyb : y.untouched = b := List.inj_on_of_nodup_map hids
    (hsub.subset (htakings.untouched_mem hy)) hb (hyid.trans hid.symm)
  -- stocks of the same variant stand on shelves as well
  have hmem : b ∈ t.stocksOf variants := by
    rw [← hyb]
    exact (arrange_stocks strategy warehouses _).subset (htakings.untouched_mem hy)
  have hmem' : a ∈ t.stocksOf variants :=
    List.mem_filter.2 ⟨ha, hvariant ▸ (List.mem_filter.1 hmem).2⟩
  obtain ⟨i, _, hi, -⟩ := id hbefore
  have hshelf : (⟨i, a, 0⟩ : Shelf) ∈ arrange strategy warehouses (t.stocksOf variants) :=
    mem_arrange.2 ⟨hmem', rfl, hi⟩
  obtain ⟨z, hz, hzreset⟩ := List.mem_map.1 (hreset ▸ hshelf)
  have hza : z.untouched = a := congrArg Shelf.stock hzreset
  have hallocate := htakings.allocate_untouched (nodup_of_subperm hsub hids) hz
  rw [hza] at hallocate
  rw [hallocate]
  have hsame : z.untouched.variantId = y.untouched.variantId := by rw [hza, hyb, hvariant]
  exact available_of_isBefore hreset hemptying hz hy hsame htaken (by rwa [hza, hyb])

/-- **Serving demands from the stocks of a store is an allotment**, where nothing is short. -/
theorem serve_allotment (hids : (t.stocks.map (·.id)).Nodup)
    (hlines : ∀ d ∈ demands, d.orderLineId.isSome)
    (hfinal : serve only (arrange strategy warehouses (t.stocksOf variants)) demands = final)
    (hserved : final.shortages = []) :
    Allotment strategy warehouses t.stocks demands final.allocations := by
  have hstart : ∀ y ∈ arrange strategy warehouses (t.stocksOf variants), y.taken = 0 :=
    fun _ => taken_arrange
  have htakings : Takings ((arrange strategy warehouses (t.stocksOf variants)).map (·.stock))
      final.shelves final.allocations := hfinal ▸ Takings.serve hstart demands
  have hlimited : ∀ y ∈ final.shelves,
      y.stock.allocated ≤ max y.stock.quantity y.untouched.allocated :=
    hfinal ▸ allocated_le_serve hstart
  have hsub := (arrange_stocks strategy warehouses (t.stocksOf variants)).trans
    List.filter_sublist.subperm
  obtain ⟨blocks, hblocks, hmet⟩ : ∃ blocks, final.allocations = [] ++ blocks.flatten ∧
      List.Forall₂ (Demand.MetBy (t.stocks.filter fun r => warehouses.any (·.id = r.warehouseId)))
        demands blocks := by
    rw [← hfinal] at hserved ⊢
    exact foldl_serveOne_met hlines (fun _ => untouched_mem_of_arrange) hserved
  rw [List.nil_append] at hblocks
  have hpositive : ∀ x ∈ final.allocations, 0 < x.quantity := fun x hx => by
    obtain ⟨block, hblock, hx⟩ := List.mem_flatten.1 (hblocks ▸ hx)
    obtain ⟨d, -, hmet⟩ := forall₂_exists_left hmet hblock
    exact hmet.positive x hx
  exact {
    met := ⟨blocks, hblocks, hmet⟩
    ofLine := fun line => hblocks ▸ Demand.MetBy.ofLine hmet hlines line
    bounded := fun r hr => by
      rcases htakings.allocate_cases hsub hids hr with ⟨y, hy, rfl, hstock⟩ | hnothing
      · rw [← hstock]
        exact hlimited y hy
      · rw [Stock.allocate, hnothing]
        exact Nat.le_max_right _ _
    greedy := fun x hx b hb hid a ha =>
      available_allocate hids hfinal hx (hpositive x hx) ha hb hid }

end Shelf

/-- **Where nothing is short, serving the demands of a store is an allotment.** -/
theorem Tables.allotment_stockServing {t : Tables} (hids : (t.stocks.map (·.id)).Nodup)
    (hserved : (t.stockServing demands country channel only now).shortages = []) :
    Allotment channel.allocationStrategy (t.warehousesServing channel.id country only) t.stocks
      (demands.filter (·.takesStock now))
      (t.stockServing demands country channel only now).allocations := by
  have hlines : ∀ d ∈ demands.filter (·.takesStock now), d.orderLineId.isSome := fun d hd =>
    (Bool.and_eq_true_iff.1 (List.mem_filter.1 hd).2).1
  have hfilter : demands.filter (·.takesStock now) =
      (demands.filter (·.isStocked now)).filter (·.orderLineId.isSome) := by
    rw [List.filter_filter]
    rfl
  rw [hfilter] at hlines ⊢
  exact Shelf.serve_allotment hids hlines (Shelf.foldl_serveOne_filter _).symm hserved

/-- Where something is short nothing is written. -/
theorem allocateStocks_short
    (h : (s.tables.stockServing demands country channel only now).shortages ≠ []) :
    (allocateStocks demands country channel only now).run s =
      (.error (.insufficientStock
        (s.tables.stockServing demands country channel only now).shortages), s) := by
  unfold allocateStocks
  unfold Tables.stockServing at h ⊢
  generalize demands.filter (·.isStocked now) = stocked at h ⊢
  cases stocked with
  | nil => exact absurd rfl h
  | cons d rest =>
    rw [if_neg (by simp), Transaction.run_bind_of_ok (Transaction.run_tables s)]
    simp only [List.isEmpty_iff, h, if_false]
    rfl

end

/-- **Stock is allocated exactly, greedily, and all or nothing**: if demands cannot be met nothing
is written, and otherwise all of them are met, from stocks in the order of the strategy. -/
theorem allocateStocks_greedy (s : Session) (demands : List Demand) (country : String)
    (channel : Channel) (only : Option WarehouseId) (now : Moment)
    (hids : (s.tables.stocks.map (·.id)).Nodup) :
    (∃ shortages, shortages ≠ [] ∧ (allocateStocks demands country channel only now).run s =
      (.error (.insufficientStock shortages), s)) ∨
    ∃ allocations emptied, (allocateStocks demands country channel only now).run s =
        (.ok allocations, {
          tables := { s.tables with
            stocks := s.tables.stocks.map (Stock.allocate allocations)
            allocations := s.tables.allocations ++ allocations }
          events := s.events ++ List.map Event.outOfStock emptied }) ∧
      Allotment channel.allocationStrategy (s.tables.warehousesServing channel.id country only)
        s.tables.stocks (demands.filter (·.takesStock now)) allocations := by
  by_cases hserved : (s.tables.stockServing demands country channel only now).shortages = []
  · obtain ⟨allocations, s', hrun⟩ := allocateStocks_run hserved
    obtain ⟨-, rfl, rfl⟩ := allocateStocks_ok hrun
    rw [Tables.putBack_stockServing hids] at hrun
    exact .inr ⟨_, _, hrun, Tables.allotment_stockServing hids hserved⟩
  · exact .inl ⟨_, hserved, allocateStocks_short hserved⟩

/-- The larger of two stocks of rice is emptied before the other is drawn from. -/
theorem allocateStocks_greedy_pantry :
    (Pantry.tables.stocks.map (·.id)).Nodup ∧ ∃ allocations emptied,
      (allocateStocks Pantry.demands "US" Pantry.channel none ⟨0⟩).run { tables := Pantry.tables } =
        (.ok allocations, {
          tables := { Pantry.tables with
            stocks := Pantry.tables.stocks.map (Stock.allocate allocations)
            allocations := Pantry.tables.allocations ++ allocations }
          events := [] ++ List.map Event.outOfStock emptied }) ∧
      Allotment .highStock (Pantry.tables.warehousesServing Pantry.channel.id "US" none)
        Pantry.tables.stocks (Pantry.demands.filter (·.takesStock ⟨0⟩)) allocations := by
  have hids : (Pantry.tables.stocks.map (·.id)).Nodup := by decide
  have hserved : (Pantry.tables.stockServing Pantry.demands "US" Pantry.channel none
      ⟨0⟩).shortages = [] := by cbv
  obtain ⟨allocations, s', hok⟩ := allocateStocks_run (s := { tables := Pantry.tables }) hserved
  rcases allocateStocks_greedy { tables := Pantry.tables } Pantry.demands "US" Pantry.channel none
    ⟨0⟩ hids with ⟨shortages, -, hrun⟩ | hrun
  · rw [hok] at hrun
    cases hrun
  · exact ⟨hids, hrun⟩

/-- The first line empties the larger stock, and the last line gets the rest of the smaller one. -/
example : (Pantry.tables.stockServing Pantry.demands "US" Pantry.channel none ⟨0⟩).allocations =
    [⟨⟨⟨11⟩⟩, ⟨⟨8⟩⟩, 3⟩, ⟨⟨⟨11⟩⟩, ⟨⟨7⟩⟩, 1⟩, ⟨⟨⟨15⟩⟩, ⟨⟨7⟩⟩, 1⟩] := by
  cbv

end Storefront
