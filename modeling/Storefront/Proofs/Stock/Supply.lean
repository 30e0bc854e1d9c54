import Mathlib.Data.List.Permutation
import Storefront.Proofs.Stock.Serving

/-!
# The check of supply and the allocation agree

Before a payment is charged the demands for each variant are added up and compared with what is
available of it. The allocation does not add anything up: it serves line after line, each from stock
after stock. The two agree because a walk leaves of a variant exactly what it has not taken, so that
it comes to an end without a shortage exactly when the sums fit.

* `Shelf.offered_draw`, `Shelf.missing_draw`: what one line takes of the shelves.
* `Shelf.serve_shortages`: all lines are served exactly when the shelves have what they ask for
  altogether.
* `Tables.stockShortages_eq_nil_iff`: the same sums are what the check compares.
* `supply_checked`: what both come to.
-/

namespace Storefront

/-! ## Sums of quantities -/

namespace Quantity

theorem total_perm {a b : List Nat} (h : a.Perm b) : total a = total b := by
  induction h with
  | nil => rfl
  | cons quantity _ ih => rw [total_cons, total_cons, ih]
  | swap x y rest =>
    simp only [total_cons]
    omega
  | trans _ _ ih₁ ih₂ => exact ih₁.trans ih₂

theorem total_le_of_sublist {a b : List Nat} (h : a.Sublist b) : total a ≤ total b := by
  induction h with
  | slnil => exact Nat.le_refl _
  | cons quantity _ ih => exact Nat.le_trans ih (Nat.le_add_left _ quantity)
  | cons_cons quantity _ ih => exact Nat.add_le_add_left ih quantity

theorem le_total_of_mem {quantity : Nat} {l : List Nat} (h : quantity ∈ l) :
    quantity ≤ total l := by
  simpa using total_le_of_sublist (List.singleton_sublist.2 h)

/-- A sum over the rows with some property, by the first row. -/
theorem total_filter_cons {α : Type} (p : α → Bool) (f : α → Nat) (x : α) (rest : List α) :
    total (((x :: rest).filter p).map f) =
      (if p x then f x else 0) + total ((rest.filter p).map f) := by
  cases h : p x <;> simp [h]

/-- A sum that stops at the largest quantity is the exact sum up to there. -/
theorem foldl_add {α : Type} (f : α → Nat) (l : List α) {start : Nat} (h : start ≤ largest) :
    l.foldl (fun sum x => add sum (f x)) start = min (start + total (l.map f)) largest := by
  induction l generalizing start with
  | nil => simp [Nat.min_eq_left h]
  | cons x rest ih =>
    have hrest := ih (show add start (f x) ≤ largest from Nat.min_le_right _ _)
    rw [List.foldl_cons, hrest, List.map_cons, total_cons, add]
    omega

end Quantity

/-- What demands ask for of a variant altogether, however much that is. -/
def Demand.asked (demands : List Demand) (variant : VariantId) : Nat :=
  Quantity.total ((demands.filter (·.variant.id = variant)).map (·.quantity))

/-- What demands ask for of each variant does not go beyond the largest quantity. -/
def Demand.InRange (demands : List Demand) : Prop :=
  ∀ d ∈ demands, asked demands d.variant.id ≤ Quantity.largest

instance (demands : List Demand) : Decidable (Demand.InRange demands) :=
  inferInstanceAs (Decidable (∀ d ∈ demands, _))

/-- What is available of a variant on shelves. -/
def Shelf.offered (shelves : List Shelf) (variant : VariantId) : Nat :=
  Quantity.total ((shelves.filter (·.stock.variantId = variant)).map (·.stock.available))

/-- What is available of a variant in some warehouses. -/
def Tables.supply (t : Tables) (warehouses : List Warehouse) (variant : VariantId) : Nat :=
  Quantity.total ((t.stocks.filter fun s =>
    s.variantId = variant && warehouses.any (·.id = s.warehouseId)).map (·.available))

namespace Demand

theorem asked_cons (d : Demand) (rest : List Demand) (variant : VariantId) :
    asked (d :: rest) variant =
      (if d.variant.id = variant then d.quantity else 0) + asked rest variant := by
  rw [asked, Quantity.total_filter_cons]
  simp [asked]

theorem asked_le_of_sublist {part whole : List Demand} (h : part.Sublist whole)
    (variant : VariantId) : asked part variant ≤ asked whole variant :=
  Quantity.total_le_of_sublist ((h.filter _).map _)

theorem quantity_le_asked {d : Demand} {demands : List Demand} (h : d ∈ demands) :
    d.quantity ≤ asked demands d.variant.id :=
  Quantity.le_total_of_mem (List.mem_map_of_mem (List.mem_filter.2 ⟨h, by simp⟩))

/-- A variant of which something is asked for is the variant of a demand. -/
theorem exists_of_asked_pos {demands : List Demand} {variant : VariantId}
    (h : 0 < asked demands variant) :
    ∃ d ∈ demands, d.variant.id = variant ∧ d.quantity ≠ 0 := by
  induction demands with
  | nil => simp [asked] at h
  | cons d rest ih =>
    by_cases hd : d.variant.id = variant ∧ d.quantity ≠ 0
    · exact ⟨d, List.mem_cons_self, hd⟩
    · have hnothing : (if d.variant.id = variant then d.quantity else 0) = 0 := by
        by_cases hvariant : d.variant.id = variant
        · simpa [hvariant] using hd
        · exact if_neg hvariant
      rw [asked_cons, hnothing, Nat.zero_add] at h
      obtain ⟨d', hd', hrest⟩ := ih h
      exact ⟨d', List.mem_cons_of_mem _ hd', hrest⟩

theorem InRange.sublist {part whole : List Demand} (h : InRange whole)
    (hsub : part.Sublist whole) : InRange part := fun d hd =>
  Nat.le_trans (asked_le_of_sublist hsub _) (h d (hsub.subset hd))

theorem isStocked_iff {now : Moment} {d : Demand} :
    d.isStocked now = true ↔
      d.variant.trackInventory = true ∧ d.variant.isPreorderActive now = false := by
  simp [isStocked]

theorem requested_eq (demands : List Demand) (variant : VariantId) :
    requested demands variant = min (asked demands variant) Quantity.largest := by
  have hfold : requested demands variant =
      (demands.filter (·.variant.id = variant)).foldl
        (fun sum d => Quantity.add sum d.quantity) 0 := by
    rw [List.foldl_filter]
    simp [requested]
  rw [hfold, Quantity.foldl_add _ _ (Nat.zero_le _), Nat.zero_add]
  rfl

end Demand

/-! ## What lines take of the shelves -/

namespace Shelf

theorem offered_cons (s : Shelf) (rest : List Shelf) (variant : VariantId) :
    offered (s :: rest) variant =
      (if s.stock.variantId = variant then s.stock.available else 0) + offered rest variant := by
  rw [offered, Quantity.total_filter_cons]
  simp [offered]

theorem available_take (s : Shelf) (quantity : Nat) :
    (s.take quantity).stock.available = s.stock.available - quantity :=
  Nat.sub_sub _ _ _ |>.symm

/-- A line misses what the shelves do not have. -/
theorem missing_draw (line : OrderLineId) (variant : VariantId) (missing : Nat)
    (shelves : List Shelf) :
    (draw line variant missing shelves).2.2 = missing - offered shelves variant := by
  induction shelves generalizing missing with
  | nil => simp [draw, offered]
  | cons s rest ih =>
    rw [draw, offered_cons]
    by_cases hvariant : s.stock.variantId = variant
    · simp only [hvariant, if_true]
      split <;> rw [ih] <;> omega
    · simp only [hvariant, if_false, if_true, Nat.sub_zero, Nat.zero_add]
      exact ih missing

/-- A line takes what it asks for from the shelves of its variant, as far as they have it. -/
theorem offered_draw (line : OrderLineId) (variant : VariantId) (missing : Nat)
    (shelves : List Shelf) (other : VariantId) :
    offered (draw line variant missing shelves).1 other =
      offered shelves other - (if other = variant then missing else 0) := by
  induction shelves generalizing missing with
  | nil => simp [draw, offered]
  | cons s rest ih =>
    rw [draw, offered_cons s rest]
    by_cases hvariant : s.stock.variantId = variant
    · rw [if_pos hvariant]
      have htake (quantity : Nat) : (s.take quantity).stock.variantId = s.stock.variantId := rfl
      by_cases hother : other = variant
      · subst hother
        simp only [if_true] at ih ⊢
        split
        · rw [offered_cons, ih, if_pos hvariant]
          omega
        · rw [offered_cons, ih, htake, if_pos hvariant, available_take]
          omega
      · have hne : s.stock.variantId ≠ other := fun heq => hother (heq.symm.trans hvariant)
        simp only [hother, if_false, Nat.sub_zero] at ih ⊢
        split
        · rw [offered_cons, ih, if_neg hne]
        · rw [offered_cons, ih, htake, if_neg hne]
    · simp only [if_neg hvariant, if_true, Nat.sub_zero]
      rw [offered_cons, ih]
      by_cases hother : other = variant
      · have hne : s.stock.variantId ≠ other := fun heq => hvariant (heq.trans hother)
        rw [if_neg hne, Nat.zero_add, Nat.zero_add]
      · simp only [hother, if_false, Nat.sub_zero]

variable {only : Option WarehouseId}

theorem serveOne_shortages {state : Serving} {d : Demand} (h : d.orderLineId.isSome) :
    (serveOne only state d).shortages = [] ↔
      state.shortages = [] ∧ d.quantity ≤ offered state.shelves d.variant.id := by
  obtain ⟨line, hline⟩ := Option.isSome_iff_exists.1 h
  have hmissing := missing_draw line d.variant.id d.quantity state.shelves
  simp only [serveOne, hline]
  rw [hmissing]
  split
  · rename_i hzero
    exact ⟨fun hnone => ⟨hnone, by omega⟩, fun hboth => hboth.1⟩
  · rename_i hpos
    simp
    omega

theorem offered_serveOne {state : Serving} {d : Demand} (h : d.orderLineId.isSome)
    (variant : VariantId) :
    offered (serveOne only state d).shelves variant =
      offered state.shelves variant - (if d.variant.id = variant then d.quantity else 0) := by
  obtain ⟨line, hline⟩ := Option.isSome_iff_exists.1 h
  simp only [serveOne, hline, offered_draw, eq_comm]

/-- Lines are served after those before them exactly when the shelves still have what they ask for
altogether. -/
theorem foldl_serveOne_shortages {demands : List Demand} (h : ∀ d ∈ demands, d.orderLineId.isSome)
    (state : Serving) :
    (demands.foldl (serveOne only) state).shortages = [] ↔
      state.shortages = [] ∧
        ∀ variant, Demand.asked demands variant ≤ offered state.shelves variant := by
  induction demands generalizing state with
  | nil => simp [Demand.asked]
  | cons d rest ih =>
    obtain ⟨hd, hrest⟩ := List.forall_mem_cons.1 h
    rw [List.foldl_cons, ih hrest, serveOne_shortages hd, and_assoc]
    refine and_congr_right fun _ => ?_
    simp only [offered_serveOne hd, Demand.asked_cons]
    constructor
    · intro ⟨hle, hall⟩ variant
      have hrest := hall variant
      by_cases hvariant : d.variant.id = variant
      · subst hvariant
        simp only [if_true] at hrest ⊢
        omega
      · simpa [hvariant] using hrest
    · intro hall
      have hd := hall d.variant.id
      simp only [if_true] at hd
      refine ⟨by omega, fun variant => ?_⟩
      have hvariant := hall variant
      omega

/-- **All lines are served exactly when the shelves have what they ask for altogether.** -/
theorem serve_shortages {demands : List Demand} (h : ∀ d ∈ demands, d.orderLineId.isSome)
    (shelves : List Shelf) :
    (serve only shelves demands).shortages = [] ↔
      ∀ variant, Demand.asked demands variant ≤ offered shelves variant := by
  rw [serve, foldl_serveOne_shortages h]
  simp

theorem offered_perm {a b : List Shelf} (h : a.Perm b) (variant : VariantId) :
    offered a variant = offered b variant :=
  Quantity.total_perm ((h.filter _).map _)

/-- The shelves have what their stocks have in the warehouses. -/
theorem offered_arrange (strategy : AllocationStrategy) (warehouses : List Warehouse)
    (stocks : List Stock) (variant : VariantId) :
    offered (arrange strategy warehouses stocks) variant =
      Quantity.total ((stocks.filter fun s =>
        s.variantId = variant && warehouses.any (·.id = s.warehouseId)).map (·.available)) := by
  rw [arrange, offered_perm (List.mergeSort_perm _ _)]
  induction stocks with
  | nil => rfl
  | cons s rest ih =>
    rw [Quantity.total_filter_cons, ← ih, List.filterMap_cons]
    cases hplace : warehouses.findIdx? (·.id = s.warehouseId) with
    | none =>
      have hnone : warehouses.any (·.id = s.warehouseId) = false := by
        rw [← List.findIdx?_isSome, hplace]
        rfl
      simp [hnone]
    | some position =>
      have hsome : warehouses.any (·.id = s.warehouseId) = true := by
        rw [← List.findIdx?_isSome, hplace]
        rfl
      simp [offered_cons, hsome]

end Shelf

/-! ## What the check compares -/

namespace Tables

variable {t : Tables} {demands : List Demand} {country : String} {channel : Channel}
  {only : Option WarehouseId}

/-- Nothing is available of a variant that is not stocked. Of any other it is what all stocks have,
up to the largest quantity. -/
theorem available?_cases (t : Tables) (warehouses : List Warehouse) (variant : VariantId) :
    t.available? warehouses variant = none ∧ t.supply warehouses variant = 0 ∨
      t.available? warehouses variant =
        some (min (t.supply warehouses variant) Quantity.largest) := by
  simp only [available?, supply]
  generalize t.stocks.filter _ = stocks
  cases stocks with
  | nil => exact .inl ⟨rfl, rfl⟩
  | cons s rest =>
    right
    rw [Quantity.foldl_add _ _ (Nat.zero_le _), Nat.zero_add]
    rfl

/-- A demand is short where it asks for something of which there is no stock, or of which less is
available than all demands ask for. -/
theorem stockShortages_eq_nil :
    t.stockShortages demands country channel only = [] ↔
      ∀ d ∈ demands, d.quantity = 0 ∨ ∃ available,
        t.available? (t.warehousesServing channel.id country only) d.variant.id = some available ∧
        (d.variant.trackInventory → Demand.requested demands d.variant.id ≤ available) := by
  rw [stockShortages, List.filterMap_eq_nil_iff]
  refine forall_congr' fun d => forall_congr' fun _ => ?_
  by_cases hzero : d.quantity = 0
  · simp [hzero]
  · cases t.available? (t.warehousesServing channel.id country only) d.variant.id with
    | none => simp [hzero]
    | some available =>
      cases d.variant.trackInventory <;> simp [hzero]

/-- What can be supplied altogether can be supplied in part. -/
theorem stockShortages_of_sublist {part whole : List Demand} (hsub : part.Sublist whole)
    (h : t.stockShortages whole country channel only = []) :
    t.stockShortages part country channel only = [] := by
  rw [stockShortages_eq_nil] at h ⊢
  intro d hd
  refine (h d (hsub.subset hd)).imp_right fun ⟨available, havailable, hle⟩ =>
    ⟨available, havailable, fun htracked => Nat.le_trans ?_ (hle htracked)⟩
  have hasked := Demand.asked_le_of_sublist hsub d.variant.id
  rw [Demand.requested_eq, Demand.requested_eq]
  omega

/-- **The check of tracked stock compares sums**: it passes exactly when there is as much of each
variant as the demands ask for altogether. -/
theorem stockShortages_eq_nil_iff (htracked : ∀ d ∈ demands, d.variant.trackInventory = true)
    (hrange : Demand.InRange demands) :
    t.stockShortages demands country channel only = [] ↔
      ∀ variant, Demand.asked demands variant ≤
        t.supply (t.warehousesServing channel.id country only) variant := by
  generalize hwarehouses : t.warehousesServing channel.id country only = warehouses
  rw [stockShortages_eq_nil, hwarehouses]
  constructor
  · intro h variant
    by_cases hasked : Demand.asked demands variant = 0
    · omega
    · obtain ⟨d, hd, rfl, hquantity⟩ := Demand.exists_of_asked_pos (Nat.pos_of_ne_zero hasked)
      obtain ⟨available, havailable, hle⟩ := (h d hd).resolve_left hquantity
      have hle := hle (htracked d hd)
      have hin := hrange d hd
      rw [Demand.requested_eq] at hle
      rcases t.available?_cases warehouses d.variant.id with ⟨hnone, -⟩ | hsome
      · rw [hnone] at havailable
        cases havailable
      · rw [hsome] at havailable
        cases havailable
        omega
  · intro h d hd
    by_cases hquantity : d.quantity = 0
    · exact .inl hquantity
    · have hle := h d.variant.id
      have hasked := Demand.quantity_le_asked hd
      rcases t.available?_cases warehouses d.variant.id with ⟨-, hnothing⟩ | hsome
      · omega
      · refine .inr ⟨_, hsome, fun _ => ?_⟩
        rw [Demand.requested_eq]
        omega

/-- The shelves that demands are served from have what there is of their variants. -/
theorem offered_shelves (t : Tables) {variant : VariantId} {variants : List VariantId}
    (h : variant ∈ variants) (strategy : AllocationStrategy) (warehouses : List Warehouse) :
    Shelf.offered (Shelf.arrange strategy warehouses (t.stocksOf variants)) variant =
      t.supply warehouses variant := by
  rw [Shelf.offered_arrange, stocksOf, List.filter_filter, supply]
  congr 2
  refine List.filter_congr fun s _ => ?_
  by_cases hvariant : s.variantId = variant
  · simp [hvariant, h]
  · simp [hvariant]

/-- **The walk over the stocks needs the same sums.** -/
theorem serve_shortages (h : ∀ d ∈ demands, d.orderLineId.isSome) :
    (t.serve demands country channel only).shortages = [] ↔
      ∀ variant, Demand.asked demands variant ≤
        t.supply (t.warehousesServing channel.id country only) variant := by
  rw [serve, Shelf.serve_shortages h]
  refine forall_congr' fun variant => ?_
  by_cases hvariant : variant ∈ demands.map (·.variant.id)
  · rw [offered_shelves t hvariant]
  · have hnothing : Demand.asked demands variant = 0 := by
      refine Nat.eq_zero_of_not_pos fun hpos => hvariant ?_
      obtain ⟨d, hd, rfl, -⟩ := Demand.exists_of_asked_pos hpos
      exact List.mem_map_of_mem hd
    omega

end Tables

/-! ## The transactions -/

/-- A transaction that succeeds where it is run. -/
def Transaction.Succeeds {α : Type} (tx : Transaction α) (s : Session) : Prop :=
  ∃ a s', tx.run s = (.ok a, s')

namespace Transaction

variable {s : Session}

theorem replace?_isSome {α κ : Type} [DecidableEq κ] {k : α → κ} {row : α} {rows : List α}
    (h : k row ∈ rows.map k) : ∃ new, replace? k row rows = some new := by
  induction rows with
  | nil => simp at h
  | cons old rest ih =>
    by_cases hold : k old = k row
    · exact ⟨_, by rw [replace?, if_pos hold]⟩
    · obtain ⟨new, hnew⟩ := ih ((List.mem_cons.1 h).resolve_left (Ne.symm hold))
      exact ⟨old :: new, by rw [replace?, if_neg hold, hnew]; rfl⟩

/-- A stock that has a row can be written. -/
theorem saveStock_run {stock : Stock} (h : stock.id ∈ s.tables.stocks.map (·.id)) :
    (saveStock stock).run s = (.ok (), { s with tables := { s.tables with
      stocks := upsert (·.id) stock s.tables.stocks } }) := by
  obtain ⟨rows, hrows⟩ := replace?_isSome h
  unfold saveStock
  rw [run_bind_of_ok (run_tables s), hrows, upsert_of_replace? hrows]
  rfl

end Transaction

section

variable {s : Session} {demands : List Demand} {country : String} {channel : Channel}
  {only : Option WarehouseId} {now : Moment}

theorem saveShelf_run {shelf : Shelf} (h : shelf.stock.id ∈ s.tables.stocks.map (·.id)) :
    ∃ s', (saveShelf shelf).run s = (.ok (), s') ∧
      s'.tables.stocks.map (·.id) = s.tables.stocks.map (·.id) := by
  unfold saveShelf
  by_cases htaken : shelf.taken = 0
  · rw [if_neg (not_not.2 htaken)]
    exact ⟨s, rfl, rfl⟩
  · rw [if_pos htaken]
    by_cases hempty : shelf.stock.available = 0
    · rw [if_pos hempty]
      let announced : Session := { s with events := s.events ++ [.outOfStock shelf.stock] }
      have hannounce : (Transaction.onCommit (.outOfStock shelf.stock)).run s =
        (.ok (), announced) := rfl
      have hsave : (Transaction.saveStock shelf.stock).run announced = _ :=
        Transaction.saveStock_run h
      exact ⟨_, (Transaction.run_bind_of_ok hannounce).trans hsave, map_upsert h⟩
    · rw [if_neg hempty]
      exact ⟨_, Transaction.saveStock_run h, map_upsert h⟩

/-- Shelves of stocks that have rows can be put back. -/
theorem forM_saveShelf_run {shelves : List Shelf}
    (h : ∀ shelf ∈ shelves, shelf.stock.id ∈ s.tables.stocks.map (·.id)) :
    ∃ s', (shelves.forM saveShelf).run s = (.ok (), s') := by
  induction shelves generalizing s with
  | nil => exact ⟨s, rfl⟩
  | cons shelf rest ih =>
    obtain ⟨hshelf, hrest⟩ := List.forall_mem_cons.1 h
    obtain ⟨s₁, hrun, hkeys⟩ := saveShelf_run hshelf
    obtain ⟨s', hrun'⟩ := ih (s := s₁) (hkeys ▸ hrest)
    exact ⟨s', (Transaction.run_bind_of_ok hrun).trans hrun'⟩

/-- Where all demands are served the result can be written. -/
theorem allocateStocks_run
    (h : (s.tables.stockServing demands country channel only now).shortages = []) :
    (allocateStocks demands country channel only now).Succeeds s := by
  unfold allocateStocks
  unfold Tables.stockServing at h
  generalize demands.filter (·.isStocked now) = stocked at h
  cases stocked with
  | nil => exact ⟨[], s, rfl⟩
  | cons d rest =>
    obtain ⟨before, hsub, htakings⟩ := s.tables.serve_takings (d :: rest) country channel only
    obtain ⟨s', hrun⟩ := forM_saveShelf_run (htakings.stock_id_mem hsub)
    refine ⟨(s.tables.serve (d :: rest) country channel only).allocations, { s' with
      tables := { s'.tables with allocations := s'.tables.allocations ++
        (s.tables.serve (d :: rest) country channel only).allocations } }, ?_⟩
    rw [if_neg (by simp), Transaction.run_bind_of_ok (Transaction.run_tables s)]
    simp only [h, List.isEmpty_nil, if_true]
    rw [Transaction.run_bind_of_ok hrun]
    rfl

/-- **The allocation succeeds exactly when there is as much of each variant as is asked for.** -/
theorem allocateStocks_succeeds_iff (h : ∀ d ∈ demands, d.orderLineId.isSome) :
    (allocateStocks demands country channel only now).Succeeds s ↔
      ∀ variant, Demand.asked (demands.filter (·.isStocked now)) variant ≤
        s.tables.supply (s.tables.warehousesServing channel.id country only) variant := by
  rw [← Tables.serve_shortages fun d hd => h d (List.mem_of_mem_filter hd)]
  exact ⟨fun ⟨_, _, hrun⟩ => (allocateStocks_ok hrun).1, allocateStocks_run⟩

theorem allocatePreorders_run
    (h : s.tables.preorderShortages (demands.filter (·.variant.isPreorderActive now)) = []) :
    (allocatePreorders demands now).Succeeds s := by
  unfold allocatePreorders
  rw [Transaction.Succeeds]
  simp only [Transaction.run_bind_of_ok (Transaction.run_tables s), h]
  exact ⟨_, _, rfl⟩

/-- The check of all demands is passed where neither stocks nor preorders are short. -/
theorem Tables.checkSupply_ok {t : Tables}
    (h : t.checkSupply demands country channel only now = .ok ()) :
    t.stockShortages (demands.filter fun d => !d.variant.isPreorderActive now) country channel
      only = [] ∧
    t.preorderShortages (demands.filter (·.variant.isPreorderActive now)) = [] := by
  unfold checkSupply at h
  rw [List.partition_eq_filter_filter] at h
  simp only at h
  split at h
  · rename_i hnone
    exact List.append_eq_nil_iff.1 (List.isEmpty_iff.1 hnone)
  · cases h

end

/-! ## A pantry

Rice is kept in two warehouses, salt is not tracked, and jam has not been made yet. -/

namespace Pantry

def channel : Channel where
  id := ⟨⟨1⟩⟩
  slug := "pantry"
  name := "Pantry"
  currency := .usd
  defaultCountry := "US"
  isActive := true
  allocationStrategy := .highStock

def rice : Variant := ⟨⟨⟨2⟩⟩, ⟨⟨2⟩⟩, none, "Rice", true, false, false, false, none, none⟩
def salt : Variant := ⟨⟨⟨3⟩⟩, ⟨⟨3⟩⟩, none, "Salt", false, false, false, false, none, none⟩
def jam : Variant := ⟨⟨⟨4⟩⟩, ⟨⟨4⟩⟩, none, "Jam", true, false, false, true, none, some 5⟩

def warehouse (number : BitVec 128) (sortOrder : Nat) : Warehouse :=
  ⟨⟨⟨number⟩⟩, "Shelf", {}, .disabled, false, [channel.id], ["US"], sortOrder⟩

def tables : Tables where
  warehouses := [warehouse 5 1, warehouse 6 0]
  stocks := [⟨⟨⟨7⟩⟩, ⟨⟨5⟩⟩, rice.id, 2, 0⟩, ⟨⟨⟨8⟩⟩, ⟨⟨6⟩⟩, rice.id, 4, 1⟩, ⟨⟨⟨9⟩⟩, ⟨⟨6⟩⟩, salt.id, 0, 0⟩]
  preorderAllocations := [⟨⟨⟨10⟩⟩, ⟨⟨4⟩⟩, 1⟩]

def demand (line : BitVec 128) (variant : Variant) (quantity : Nat) : Demand where
  orderLineId := some ⟨⟨line⟩⟩
  variant := variant
  listing := ⟨⟨variant.id.uuid⟩, variant.id, channel.id, none, none, some 4⟩
  quantity := quantity

/-- Two lines take all the rice there is, and one asks for no rice. -/
def demands : List Demand :=
  [demand 11 rice 4, demand 12 salt 7, demand 13 rice 0, demand 14 jam 3, demand 15 rice 1]

end Pantry

/-! ## Checking and allocating -/

/-- **What was checked can be allocated**, in the same transaction:

* of the demands for tracked stock none is reported as short exactly when stock can be allocated
  to them;
* where the check of all demands is passed, both stocks and preorders can be allocated. -/
theorem supply_checked (s : Session) (demands : List Demand) (country : String) (channel : Channel)
    (only : Option WarehouseId) (now : Moment) (hlines : ∀ d ∈ demands, d.orderLineId.isSome)
    (hrange : Demand.InRange demands) :
    (s.tables.stockShortages (demands.filter (·.isStocked now)) country channel only = [] ↔
      (allocateStocks (demands.filter (·.isStocked now)) country channel only now).Succeeds s) ∧
    (s.tables.checkSupply demands country channel only now = .ok () →
      ∃ allocations s', (allocateStocks demands country channel only now).run s =
          (.ok allocations, s') ∧
        (allocatePreorders demands now).Succeeds s') := by
  have hstocked : (demands.filter (·.isStocked now)).Sublist demands := List.filter_sublist
  have hlines' : ∀ d ∈ demands.filter (·.isStocked now), d.orderLineId.isSome :=
    fun d hd => hlines d (hstocked.subset hd)
  have htracked : ∀ d ∈ demands.filter (·.isStocked now), d.variant.trackInventory = true :=
    fun d hd => (Demand.isStocked_iff.1 (List.mem_filter.1 hd).2).1
  have hiff : s.tables.stockShortages (demands.filter (·.isStocked now)) country channel only = [] ↔
      ∀ variant, Demand.asked (demands.filter (·.isStocked now)) variant ≤
        s.tables.supply (s.tables.warehousesServing channel.id country only) variant :=
    Tables.stockShortages_eq_nil_iff htracked (hrange.sublist hstocked)
  refine ⟨?_, fun hcheck => ?_⟩
  · rw [hiff, allocateStocks_succeeds_iff hlines', List.filter_filter]
    simp
  · obtain ⟨hstocks, hpreorders⟩ := Tables.checkSupply_ok hcheck
    have hsub : (demands.filter (·.isStocked now)).Sublist
        (demands.filter fun d => !d.variant.isPreorderActive now) :=
      List.monotone_filter_right _ fun d hd => by simp [(Demand.isStocked_iff.1 hd).2]
    obtain ⟨allocations, s', hrun⟩ := (allocateStocks_succeeds_iff hlines).2
      (hiff.1 (Tables.stockShortages_of_sublist hsub hstocks))
    refine ⟨allocations, s', hrun, allocatePreorders_run ?_⟩
    -- allocating stock does not touch what preorders are checked against
    obtain ⟨-, -, rfl⟩ := allocateStocks_ok hrun
    exact hpreorders

/-- The last of the rice is promised to two lines and given to both. -/
theorem supply_checked_pantry :
    (∀ d ∈ Pantry.demands, d.orderLineId.isSome) ∧ Demand.InRange Pantry.demands ∧
      Pantry.tables.checkSupply Pantry.demands "US" Pantry.channel none ⟨0⟩ = .ok () ∧
      ∃ allocations s', (allocateStocks Pantry.demands "US" Pantry.channel none ⟨0⟩).run
          { tables := Pantry.tables } = (.ok allocations, s') ∧
        (allocatePreorders Pantry.demands ⟨0⟩).Succeeds s' := by
  have hlines : ∀ d ∈ Pantry.demands, d.orderLineId.isSome := by decide
  have hrange : Demand.InRange Pantry.demands := by decide
  have hcheck : Pantry.tables.checkSupply Pantry.demands "US" Pantry.channel none ⟨0⟩ = .ok () := by
    cbv
  exact ⟨hlines, hrange, hcheck, (supply_checked { tables := Pantry.tables } Pantry.demands "US"
    Pantry.channel none ⟨0⟩ hlines hrange).2 hcheck⟩

end Storefront
