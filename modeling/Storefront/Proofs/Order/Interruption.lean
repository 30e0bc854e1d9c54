import Storefront.Proofs.Completion.Recalculation
import Storefront.Proofs.Order.Steps

/-!
# Recalculating an order that fails halfway

Recalculating changes the lines of an order and then the order itself, one price after the other.
Where a price cannot be computed, those that have been computed before stay. What they are computed
from is never changed, so that nothing is lost: providers that do not look at computed prices come
to the same, whether they are asked about the order before the failure or after it.

* `OrderLine.base`, `Order.base`: what recalculating starts from.
* `TaxProvider.ReadsBase`: a provider that does not look at computed prices.
* `repriceLines_cutShort`, `repriceOrder_stopsAt`: what a failure leaves of lines and of an order.
* `Order.finished_reprice`: recalculating comes to the same as it does from what it starts from.
* `Order.reprice_cutShort`: what a failure leaves of all of it, and that it can be tried again.
* `Order.isChangedByFailure_bookshop`: failures that leave a line or an order half recalculated.
-/

namespace Storefront

/-! ## What recalculating starts from -/

/-- The data of a line that recalculating starts from. The prices that are computed are those before
tax. -/
def OrderLine.base (l : OrderLine) : OrderLine :=
  { l with
    unitPrice := .untaxed l.baseUnitPrice
    undiscountedUnitPrice := .untaxed l.undiscountedBaseUnitPrice
    totalPrice := .untaxed l.baseTotalPrice
    undiscountedTotalPrice := .untaxed l.undiscountedBaseTotalPrice
    taxRate := 0 }

/-- The data of an order that recalculating starts from. Shipping has its price before tax, and the
total is nothing. -/
def Order.base (o : Order) : Order :=
  { o with
    shippingPrice := .untaxed o.baseShippingPrice
    shippingTaxRate := 0
    total := .zero o.currency }

/-- A provider that does not look at prices and rates that are computed. -/
structure TaxProvider.ReadsBase (provider : TaxProvider) : Prop where
  lineUnit : ∀ o l, provider.orderLineUnit o l = provider.orderLineUnit o.base l.base
  lineTotal : ∀ o l, provider.orderLineTotal o l = provider.orderLineTotal o.base l.base
  lineRate : ∀ o l, provider.orderLineRate o l = provider.orderLineRate o.base l.base
  shipping : ∀ o, provider.orderShipping o = provider.orderShipping o.base
  shippingRate : ∀ o, provider.orderShippingRate o = provider.orderShippingRate o.base

theorem TaxProvider.PassesThrough.readsBase {provider : TaxProvider}
    (h : provider.PassesThrough) : provider.ReadsBase := by
  obtain ⟨prepare, rfl⟩ := h
  exact ⟨fun _ _ => rfl, fun _ _ => rfl, fun _ _ => rfl, fun _ => rfl, fun _ => rfl⟩

theorem FlatRates.readsBase (r : FlatRates) (entryIncludesTax : Bool) :
    (r.provider entryIncludesTax).ReadsBase :=
  ⟨fun _ _ => rfl, fun _ _ => rfl, fun _ _ => rfl, fun _ => rfl, fun _ => rfl⟩

/-- No provider of the chain looks at prices and rates that are computed. -/
def TaxChain.ReadsBase (chain : TaxChain) : Prop :=
  ∀ provider ∈ chain, provider.ReadsBase

namespace TaxChain.ReadsBase

variable {chain : TaxChain} {o o' : Order} {l l' : OrderLine}

theorem lineUnit (h : chain.ReadsBase) (ho : o'.base = o.base) (hl : l'.base = l.base) :
    chain.orderLineUnit o' l' = chain.orderLineUnit o l :=
  funext <| price_congr fun provider hprovider => by
    rw [(h provider hprovider).lineUnit, ho, hl, ← (h provider hprovider).lineUnit]

theorem lineTotal (h : chain.ReadsBase) (ho : o'.base = o.base) (hl : l'.base = l.base) :
    chain.orderLineTotal o' l' = chain.orderLineTotal o l :=
  funext <| price_congr fun provider hprovider => by
    rw [(h provider hprovider).lineTotal, ho, hl, ← (h provider hprovider).lineTotal]

theorem lineRate (h : chain.ReadsBase) (ho : o'.base = o.base) (hl : l'.base = l.base) :
    chain.orderLineRate o' l' = chain.orderLineRate o l :=
  funext <| rate_congr fun provider hprovider => by
    rw [(h provider hprovider).lineRate, ho, hl, ← (h provider hprovider).lineRate]

theorem shipping (h : chain.ReadsBase) (ho : o'.base = o.base) :
    chain.orderShipping o' = chain.orderShipping o :=
  funext <| price_congr fun provider hprovider => by
    rw [(h provider hprovider).shipping, ho, ← (h provider hprovider).shipping]

theorem shippingRate (h : chain.ReadsBase) (ho : o'.base = o.base) :
    chain.orderShippingRate o' = chain.orderShippingRate o :=
  funext <| rate_congr fun provider hprovider => by
    rw [(h provider hprovider).shippingRate, ho, ← (h provider hprovider).shippingRate]

end TaxChain.ReadsBase

/-! ## Lines -/

/-- The steps in which a line is recalculated: the price of an item, the price of an item without
discounts, the total, the total without discounts, and the tax rate. -/
def OrderLine.steps (chain : TaxChain) (o : Order) : List (Updating OrderLine Unit) :=
  [store (fun l => chain.orderLineUnit o l (.untaxed l.baseUnitPrice))
      fun l p => { l with unitPrice := p },
    store (fun l => chain.orderLineUnit o l (.untaxed l.undiscountedBaseUnitPrice))
      fun l p => { l with undiscountedUnitPrice := p },
    store (fun l => chain.orderLineTotal o l (.untaxed l.baseTotalPrice))
      fun l p => { l with totalPrice := p },
    store (fun l => chain.orderLineTotal o l (.untaxed l.undiscountedBaseTotalPrice))
      fun l p => { l with undiscountedTotalPrice := p },
    store (fun l => do chain.orderLineRate o l (← l.totalPrice.rate))
      fun l r => { l with taxRate := r }]

/-- The line has been recalculated. -/
def OrderLine.Recalculated (chain : TaxChain) (o : Order) (l l' : OrderLine) : Prop :=
  (repriceLine chain o).run l = (.ok (), l')

section Lines

variable {chain : TaxChain} {o : Order} {l l' : OrderLine}

theorem repriceLine_eq (chain : TaxChain) (o : Order) :
    repriceLine chain o = Updating.inOrder (OrderLine.steps chain o) := by
  simp only [repriceLine, OrderLine.steps, Updating.inOrder, bind_pure_unit]

theorem OrderLine.isWhole_steps (chain : TaxChain) (o : Order) :
    ∀ step ∈ OrderLine.steps chain o, step.IsWhole := by
  simp only [OrderLine.steps, List.forall_mem_cons, Updating.isWhole_store, true_and]
  exact nofun

/-- No step changes what a line starts from. -/
theorem OrderLine.base_of_step {b : OrderLine} :
    ∀ step ∈ OrderLine.steps chain o, ∀ l l', l.base = b → step.run l = (.ok (), l') →
      l'.base = b := by
  simp only [OrderLine.steps, List.forall_mem_cons]
  refine ⟨?_, ?_, ?_, ?_, ?_, nofun⟩
  all_goals
    intro l l' hl h
    obtain ⟨_, -, rfl⟩ := Updating.run_store_ok h
    exact hl

theorem OrderLine.base_of_taken {count : Nat}
    (h : Updating.Taken (OrderLine.steps chain o) count l l') : l'.base = l.base :=
  h.invariant (P := fun l' => l'.base = l.base) rfl fun step hstep =>
    OrderLine.base_of_step step (List.mem_of_mem_take hstep)

theorem OrderLine.Recalculated.base (h : OrderLine.Recalculated chain o l l') :
    l'.base = l.base := by
  rw [Recalculated, repriceLine_eq] at h
  have htaken : Updating.Taken (OrderLine.steps chain o) (OrderLine.steps chain o).length l l' := by
    rwa [Updating.Taken, List.take_length]
  exact OrderLine.base_of_taken htaken

/-- Lines that have been recalculated start from what they have started from. -/
theorem OrderLine.map_base_of_recalculated {lines lines' : List OrderLine}
    (h : List.Forall₂ (OrderLine.Recalculated chain o) lines lines') :
    lines'.map (·.base) = lines.map (·.base) := by
  induction h with
  | nil => rfl
  | cons hline _ ih => rw [List.map_cons, List.map_cons, hline.base, ih]

/-- A line comes to the same as what it starts from. -/
theorem ifDone_repriceLine (hchain : chain.ReadsBase) (o : Order) (l : OrderLine) :
    ifDone ((repriceLine chain o).run l) = ifDone ((repriceLine chain o.base).run l.base) := by
  simp only [repriceLine_eq, OrderLine.steps, Updating.ifDone_cons, Updating.ifDone_nil]
  -- what has been computed before does not matter to a provider, and all of it is replaced
  refine congrArg₂ Bind.bind (congrFun (hchain.lineUnit (by rfl) (by rfl)) _)
    (funext fun unit => ?_)
  refine congrArg₂ Bind.bind (congrFun (hchain.lineUnit (by rfl) (by rfl)) _)
    (funext fun undiscountedUnit => ?_)
  refine congrArg₂ Bind.bind (congrFun (hchain.lineTotal (by rfl) (by rfl)) _)
    (funext fun total => ?_)
  refine congrArg₂ Bind.bind (congrFun (hchain.lineTotal (by rfl) (by rfl)) _)
    (funext fun undiscountedTotal => ?_)
  exact congrArg₂ Bind.bind
    (bind_congr fun rate => congrFun (hchain.lineRate (by rfl) (by rfl)) rate)
    (funext fun rate => rfl)

/-! ## Several lines -/

/-- What becomes of a line in front of others: it cannot be recalculated, it cannot be added to the
sums, or the others are next. -/
theorem repriceLines_cons {sums : Subtotals} {rest lines' : List OrderLine}
    {result : Except Error Subtotals}
    (h : repriceLines chain o sums (l :: rest) = (result, lines')) :
    (∃ e l', (repriceLine chain o).run l = (.error e, l') ∧ result = .error e ∧
      lines' = l' :: rest) ∨
    (∃ e l', OrderLine.Recalculated chain o l l' ∧ sums.add l' = .error e ∧ result = .error e ∧
      lines' = l' :: rest) ∨
    ∃ l' next rest', OrderLine.Recalculated chain o l l' ∧ sums.add l' = .ok next ∧
      repriceLines chain o next rest = (result, rest') ∧ lines' = l' :: rest' := by
  rw [repriceLines] at h
  cases hline : (repriceLine chain o).run l with
  | mk outcome l' =>
    rw [hline] at h
    cases outcome with
    | error e =>
      obtain ⟨rfl, rfl⟩ := Prod.mk.inj h
      exact .inl ⟨e, l', rfl, rfl, rfl⟩
    | ok u =>
      cases hsum : sums.add l' with
      | error e =>
        simp only [hsum] at h
        obtain ⟨rfl, rfl⟩ := Prod.mk.inj h
        exact .inr (.inl ⟨e, l', hline, hsum, rfl, rfl⟩)
      | ok next =>
        simp only [hsum] at h
        obtain ⟨rfl, rfl⟩ := Prod.mk.inj h
        exact .inr (.inr ⟨l', next, _, hline, hsum, rfl, rfl⟩)

/-- Lines that have been recalculated one after the other, with their sums. -/
theorem repriceLines_done {sums sums' : Subtotals} {lines lines' : List OrderLine}
    (h : repriceLines chain o sums lines = (.ok sums', lines')) :
    List.Forall₂ (OrderLine.Recalculated chain o) lines lines' ∧
      lines'.foldlM Subtotals.add sums = .ok sums' := by
  induction lines generalizing sums lines' with
  | nil =>
    cases h
    exact ⟨.nil, rfl⟩
  | cons l rest ih =>
    obtain ⟨_, _, -, hfails, -⟩ | ⟨_, _, -, -, hfails, -⟩ |
      ⟨l', next, rest', hline, hsum, hrest, rfl⟩ := repriceLines_cons h
    · cases hfails
    · cases hfails
    · obtain ⟨hlines, hsums⟩ := ih hrest
      refine ⟨.cons hline hlines, ?_⟩
      rw [List.foldlM_cons, hsum]
      exact hsums

/-- Lines that have been recalculated up to one, where a step or adding the line up fails. The lines
behind it are as they were. -/
inductive OrderLine.CutShort (chain : TaxChain) (o : Order) (sums : Subtotals) (e : Error) :
    List OrderLine → List OrderLine → Prop
  | atStep {front done back : List OrderLine} {l l' : OrderLine} {count : Nat}
    (hdone : List.Forall₂ (OrderLine.Recalculated chain o) front done)
    (hline : Updating.StopsAt (OrderLine.steps chain o) count e l l') :
    CutShort chain o sums e (front ++ l :: back) (done ++ l' :: back)
  | atSum {front done back : List OrderLine} {l l' : OrderLine} {sums' : Subtotals}
    (hdone : List.Forall₂ (OrderLine.Recalculated chain o) front done)
    (hsums : done.foldlM Subtotals.add sums = .ok sums')
    (hline : OrderLine.Recalculated chain o l l') (hadd : sums'.add l' = .error e) :
    CutShort chain o sums e (front ++ l :: back) (done ++ l' :: back)

/-- A line that has been recalculated in front of others that are cut short. -/
theorem OrderLine.CutShort.cons {sums next : Subtotals} {e : Error} {rest rest' : List OrderLine}
    (hline : OrderLine.Recalculated chain o l l') (hsum : sums.add l' = .ok next)
    (h : OrderLine.CutShort chain o next e rest rest') :
    OrderLine.CutShort chain o sums e (l :: rest) (l' :: rest') := by
  cases h with
  | atStep hdone hstep => exact .atStep (.cons hline hdone) hstep
  | atSum hdone hsums hlast hadd =>
    refine .atSum (.cons hline hdone) ?_ hlast hadd
    rw [List.foldlM_cons, hsum]
    exact hsums

/-- **What a failure leaves of lines.** -/
theorem repriceLines_cutShort {sums : Subtotals} {lines lines' : List OrderLine} {e : Error}
    (h : repriceLines chain o sums lines = (.error e, lines')) :
    OrderLine.CutShort chain o sums e lines lines' := by
  induction lines generalizing sums lines' with
  | nil => cases h
  | cons l rest ih =>
    obtain ⟨e', l', hline, he, rfl⟩ | ⟨e', l', hline, hsum, he, rfl⟩ |
      ⟨l', next, rest', hline, hsum, hrest, rfl⟩ := repriceLines_cons h
    · obtain rfl := Except.error.inj he
      rw [repriceLine_eq] at hline
      obtain ⟨count, hstops⟩ := Updating.stopsAt_of_error (OrderLine.isWhole_steps chain o) hline
      exact .atStep .nil hstops
    · obtain rfl := Except.error.inj he
      exact .atSum .nil rfl hline hsum
    · exact (ih hrest).cons hline hsum

/-- No failure changes what lines start from. -/
theorem OrderLine.CutShort.map_base {sums : Subtotals} {e : Error} {lines lines' : List OrderLine}
    (h : OrderLine.CutShort chain o sums e lines lines') :
    lines'.map (·.base) = lines.map (·.base) := by
  cases h with
  | atStep hdone hline =>
    simp only [List.map_append, List.map_cons, OrderLine.map_base_of_recalculated hdone,
      OrderLine.base_of_taken hline.taken]
  | atSum hdone _ hline _ =>
    simp only [List.map_append, List.map_cons, OrderLine.map_base_of_recalculated hdone,
      hline.base]

theorem ifDone_repriceLines_cons (chain : TaxChain) (o : Order) (sums : Subtotals)
    (l : OrderLine) (rest : List OrderLine) :
    ifDone (repriceLines chain o sums (l :: rest)) = do
      let (_, l') ← ifDone ((repriceLine chain o).run l)
      let next ← sums.add l'
      let (total, rest') ← ifDone (repriceLines chain o next rest)
      return (total, l' :: rest') := by
  rw [repriceLines]
  rcases (repriceLine chain o).run l with ⟨_ | _, l'⟩
  · rfl
  · simp only [ifDone, ok_bind]
    cases sums.add l' with
    | error e => rfl
    | ok next =>
      simp only [ok_bind]
      rcases repriceLines chain o next rest with ⟨_ | _, _⟩ <;> rfl

/-- Lines come to the same as what they start from. -/
theorem ifDone_repriceLines (hchain : chain.ReadsBase) (o : Order) (sums : Subtotals)
    (lines : List OrderLine) :
    ifDone (repriceLines chain o sums lines) =
      ifDone (repriceLines chain o.base sums (lines.map (·.base))) := by
  induction lines generalizing sums with
  | nil => rfl
  | cons l rest ih =>
    rw [List.map_cons, ifDone_repriceLines_cons, ifDone_repriceLines_cons,
      ifDone_repriceLine hchain]
    simp only [ih]

end Lines

/-! ## Orders -/

/-- The steps in which an order is recalculated, with a discount and the sums of its lines: the
price of shipping, its tax rate, the total, and the total without discounts together with the amount
of the discounts. -/
def Order.steps (chain : TaxChain) (discount : Money) (sums : Subtotals) :
    List (Updating Order Unit) :=
  [store (fun o => chain.orderShipping o (.untaxed o.baseShippingPrice))
      fun o p => { o with shippingPrice := p },
    store (fun o => do chain.orderShippingRate o (← o.shippingPrice.rate))
      fun o r => { o with shippingTaxRate := r },
    store (fun o => o.totalOf sums.discounted discount) fun o p => { o with total := p },
    store
      (fun o => do
        let withShipping ← sums.discounted.add o.shippingPrice
        return (← sums.undiscounted.add o.shippingPrice, discount.min withShipping.gross))
      fun o p => { o with
        undiscountedTotal := p.1
        discounts := o.discounts.map fun d => { d with amount := p.2 } }]

section Orders

variable {chain : TaxChain} {discount : Money} {sums : Subtotals} {o o' : Order}

theorem run_repriceOrder (chain : TaxChain) (discount : Money) (sums : Subtotals) (o : Order) :
    (repriceOrder chain discount sums).run o =
      (Updating.inOrder (Order.steps chain discount sums)).run o := by
  simp only [repriceOrder, Order.steps, Updating.inOrder, Updating.run_bind, Updating.run_store,
    Updating.run_get, Updating.run_lift, Updating.run_modify]
  cases chain.orderShipping o (.untaxed o.baseShippingPrice) with
  | error e => rfl
  | ok price =>
    dsimp only
    cases (do chain.orderShippingRate { o with shippingPrice := price } (← price.rate)) with
    | error e => rfl
    | ok rate =>
      dsimp only [Order.totalOf]
      cases hshipped : sums.discounted.add price with
      | error e => rfl
      | ok withShipping =>
        dsimp only
        cases hleft : withShipping.subAmount (discount.min withShipping.gross) with
        | error e =>
          simp only [ok_bind, hleft]
          rfl
        | ok left =>
          simp only [ok_bind, hleft]
          dsimp only [pure, Except.pure]
          simp only [hshipped, ok_bind]
          cases sums.undiscounted.add price <;> rfl

theorem Order.isWhole_steps (chain : TaxChain) (discount : Money) (sums : Subtotals) :
    ∀ step ∈ Order.steps chain discount sums, step.IsWhole := by
  simp only [Order.steps, List.forall_mem_cons, Updating.isWhole_store, true_and]
  exact nofun

theorem Taxed.currency_add {p q sum : Taxed} (h : p.add q = .ok sum) :
    sum.currency = p.currency := by
  obtain ⟨net, hnet, h⟩ := bind_ok h
  obtain ⟨gross, -, h⟩ := bind_ok h
  obtain rfl := Except.ok.inj h
  exact (Money.add_ok hnet).2.1

/-- Sums of lines have the currency that they start with. -/
theorem Subtotals.currency_foldlM_add {sums sums' : Subtotals} {lines : List OrderLine}
    (h : lines.foldlM Subtotals.add sums = .ok sums') :
    sums'.discounted.currency = sums.discounted.currency := by
  induction lines generalizing sums with
  | nil =>
    cases h
    rfl
  | cons l rest ih =>
    rw [List.foldlM_cons] at h
    obtain ⟨next, hnext, hrest⟩ := bind_ok h
    obtain ⟨discounted, hdiscounted, hnext⟩ := bind_ok hnext
    obtain ⟨undiscounted, -, hnext⟩ := bind_ok hnext
    obtain rfl := Except.ok.inj hnext
    exact (ih hrest).trans (Taxed.currency_add hdiscounted)

theorem Order.currency_totalOf {lines total : Taxed} (h : o.totalOf lines discount = .ok total) :
    total.currency = lines.currency := by
  obtain ⟨shipped, hshipped, h⟩ := bind_ok h
  obtain ⟨left, hleft, h⟩ := bind_ok h
  obtain rfl := Except.ok.inj h
  obtain ⟨net, hnet, hleft⟩ := bind_ok hleft
  obtain ⟨gross, -, hleft⟩ := bind_ok hleft
  obtain rfl := Except.ok.inj hleft
  calc net.floorAtZero.currency = net.currency := Money.currency_floorAtZero net
    _ = shipped.currency := (Money.sub_ok hnet).2.1
    _ = lines.currency := Taxed.currency_add hshipped

/-- The steps in front of the last one do not change what an order starts from. -/
theorem Order.base_of_step (hsums : sums.discounted.currency = o.currency) :
    ∀ step ∈ (Order.steps chain discount sums).dropLast, ∀ o₁ o₂, o₁.base = o.base →
      step.run o₁ = (.ok (), o₂) → o₂.base = o.base := by
  simp only [Order.steps, List.dropLast_cons_cons, List.dropLast_singleton, List.forall_mem_cons]
  refine ⟨?_, ?_, ?_, nofun⟩
  · intro o₁ o₂ ho h
    obtain ⟨_, -, rfl⟩ := Updating.run_store_ok h
    exact ho
  · intro o₁ o₂ ho h
    obtain ⟨_, -, rfl⟩ := Updating.run_store_ok h
    exact ho
  · intro o₁ o₂ ho h
    obtain ⟨total, htotal, rfl⟩ := Updating.run_store_ok h
    -- the currency of an order is that of its total, which has that of the lines
    have hcurrency : total.currency = o₁.currency := by
      rw [Order.currency_totalOf htotal, hsums]
      exact (congrArg (·.total.currency) ho).symm
    rw [← ho]
    show { o₁.base with total := .zero total.currency } = o₁.base
    rw [hcurrency]
    rfl

/-- **What a failure leaves of an order.** -/
theorem repriceOrder_stopsAt {e : Error}
    (h : (repriceOrder chain discount sums).run o = (.error e, o')) :
    ∃ count, Updating.StopsAt (Order.steps chain discount sums) count e o o' :=
  Updating.stopsAt_of_error (Order.isWhole_steps chain discount sums)
    ((run_repriceOrder chain discount sums o).symm.trans h)

theorem Order.base_of_stopsAt {count : Nat} {e : Error}
    (h : Updating.StopsAt (Order.steps chain discount sums) count e o o')
    (hsums : sums.discounted.currency = o.currency) : o'.base = o.base :=
  h.taken.invariant (P := fun o' => o'.base = o.base) rfl fun step hstep =>
    Order.base_of_step hsums step (h.take_subset hstep)

/-- An order comes to the same as what it starts from. -/
theorem ifDone_repriceOrder (hchain : chain.ReadsBase) (discount : Money) (sums : Subtotals)
    (o : Order) :
    ifDone ((repriceOrder chain discount sums).run o) =
      ifDone ((repriceOrder chain discount sums).run o.base) := by
  simp only [run_repriceOrder, Order.steps, Updating.ifDone_cons, Updating.ifDone_nil]
  refine congrArg₂ Bind.bind (congrFun (hchain.shipping (by rfl)) _) (funext fun price => ?_)
  exact congrArg₂ Bind.bind
    (bind_congr fun rate => congrFun (hchain.shippingRate (by rfl)) rate) (funext fun rate => rfl)

end Orders

/-! ## All of it -/

/-- What recalculating comes to where it does not fail. -/
def Repricing.finished (r : Repricing) : Except Error (Order × List OrderLine) :=
  r.outcome.map fun _ => (r.order, r.lines)

/-- Recalculating has been cut short: at a line, with the order as it was, or behind all lines, at
one of the steps of the order. -/
inductive Repricing.CutShort (chain : TaxChain) (o : Order) (lines : List OrderLine)
    (discount : Money) (e : Error) : Repricing → Prop
  | atLine {lines' : List OrderLine}
    (hlines : OrderLine.CutShort chain o ⟨.zero o.currency, .zero o.currency⟩ e lines lines') :
    CutShort chain o lines discount e ⟨o, lines', .error e⟩
  | atOrder {lines' : List OrderLine} {sums : Subtotals} {count : Nat} {o' : Order}
    (hlines : List.Forall₂ (OrderLine.Recalculated chain o) lines lines')
    (hsums : lines'.foldlM Subtotals.add ⟨.zero o.currency, .zero o.currency⟩ = .ok sums)
    (horder : Updating.StopsAt (Order.steps chain discount sums) count e o o') :
    CutShort chain o lines discount e ⟨o', lines', .error e⟩

section All

variable {chain : TaxChain} {o : Order} {lines : List OrderLine} {discount : Money} {e : Error}

/-- No failure changes what recalculating starts from. -/
theorem Repricing.CutShort.base {r : Repricing} (h : r.CutShort chain o lines discount e) :
    r.order.base = o.base ∧ r.lines.map (·.base) = lines.map (·.base) := by
  cases h with
  | atLine hlines => exact ⟨rfl, hlines.map_base⟩
  | atOrder hlines hsums horder =>
    exact ⟨Order.base_of_stopsAt horder (Subtotals.currency_foldlM_add hsums),
      OrderLine.map_base_of_recalculated hlines⟩

theorem Order.finished_reprice_eq (o : Order) (lines : List OrderLine) (discount : Money)
    (chain : TaxChain) :
    (o.reprice lines discount chain).finished = do
      let (sums, lines') ←
        ifDone (repriceLines chain o ⟨.zero o.currency, .zero o.currency⟩ lines)
      let (_, o') ← ifDone ((repriceOrder chain discount sums).run o)
      return (o', lines') := by
  unfold reprice
  dsimp only
  rcases repriceLines chain o ⟨.zero o.currency, .zero o.currency⟩ lines with ⟨_ | sums, lines'⟩
  · rfl
  · simp only [ifDone, ok_bind]
    rcases (repriceOrder chain discount sums).run o with ⟨_ | _, _⟩ <;> rfl

/-- An order and its lines come to the same as what they start from. -/
theorem Order.finished_reprice (hchain : chain.ReadsBase) (o : Order) (lines : List OrderLine)
    (discount : Money) :
    (o.reprice lines discount chain).finished =
      (o.base.reprice (lines.map (·.base)) discount chain).finished := by
  rw [finished_reprice_eq, finished_reprice_eq, ifDone_repriceLines hchain]
  refine bind_congr fun ⟨sums, lines'⟩ => ?_
  dsimp only
  rw [ifDone_repriceOrder hchain]

theorem Order.cutShort_of_error (h : (o.reprice lines discount chain).outcome = .error e) :
    (o.reprice lines discount chain).CutShort chain o lines discount e := by
  unfold reprice at h ⊢
  dsimp only at h ⊢
  cases hpriced : repriceLines chain o ⟨.zero o.currency, .zero o.currency⟩ lines with
  | mk result lines' =>
    rw [hpriced] at h
    cases result with
    | error e' =>
      obtain rfl := Except.error.inj h
      exact .atLine (repriceLines_cutShort hpriced)
    | ok sums =>
      obtain ⟨hlines, hsums⟩ := repriceLines_done hpriced
      dsimp only at h ⊢
      cases horder : (repriceOrder chain discount sums).run o with
      | mk outcome o' =>
        rw [horder] at h
        obtain rfl : outcome = .error e := h
        obtain ⟨count, hstops⟩ := repriceOrder_stopsAt horder
        exact .atOrder hlines hsums hstops

/-- **What a failure leaves.** The lines and the order have been recalculated up to the step that
has failed. What they are computed from is as it was, so that providers that do not look at computed
prices come to the same as if nothing had been recalculated. -/
theorem Order.reprice_cutShort (h : (o.reprice lines discount chain).outcome = .error e) :
    (o.reprice lines discount chain).CutShort chain o lines discount e ∧
      (o.reprice lines discount chain).order.base = o.base ∧
      (o.reprice lines discount chain).lines.map (·.base) = lines.map (·.base) ∧
      ∀ discount' chain', TaxChain.ReadsBase chain' →
        ((o.reprice lines discount chain).order.reprice (o.reprice lines discount chain).lines
          discount' chain').finished = (o.reprice lines discount' chain').finished := by
  have hcut := cutShort_of_error h
  obtain ⟨horder, hlines⟩ := hcut.base
  refine ⟨hcut, horder, hlines, fun discount' chain' hchain => ?_⟩
  -- both come to the same as what they start from, and that is the same
  rw [finished_reprice hchain, horder, hlines, ← finished_reprice hchain]

end All

/-! ## Providers that are down -/

namespace Bookshop

/-- An order that is shipped for a dollar and has no prices yet. -/
def unpricedOrder : Order :=
  { (default : Order) with baseShippingPrice := ⟨1, .usd⟩, total := .zero .usd }

/-- A line with a copy for a dollar. -/
def unpricedLine : OrderLine :=
  { (default : OrderLine) with
    quantity := 1
    baseUnitPrice := ⟨1, .usd⟩
    undiscountedBaseUnitPrice := ⟨1, .usd⟩
    baseTotalPrice := ⟨1, .usd⟩
    undiscountedBaseTotalPrice := ⟨1, .usd⟩ }

/-- Doubles all prices, and has no answer about the total of a line. -/
def noLineTotals : TaxProvider :=
  { vat 100 with orderLineTotal := fun _ _ _ => .error (.tax "provider unavailable") }

/-- Doubles all prices, and has no answer about the rate of shipping. -/
def noShippingRate : TaxProvider :=
  { vat 100 with orderShippingRate := fun _ _ => .error (.tax "provider unavailable") }

end Bookshop

namespace Order

open Bookshop (unpricedOrder unpricedLine noLineTotals noShippingRate vat)

/-- Two lines are cut short, and are priced in full by another provider, behind one that does
nothing. -/
theorem reprice_cutShort_bookshop :
    let o := unpricedOrder
    let lines := [unpricedLine, unpricedLine]
    let retry := (o.reprice lines (.zero .usd) [noLineTotals]).order.reprice
      (o.reprice lines (.zero .usd) [noLineTotals]).lines (.zero .usd) [{ }, vat 100]
    (o.reprice lines (.zero .usd) [noLineTotals]).outcome =
        .error (.tax "provider unavailable") ∧
      TaxChain.ReadsBase [{ }, vat 100] ∧
      retry.finished = (o.reprice lines (.zero .usd) [{ }, vat 100]).finished ∧
      retry.outcome = .ok () := by
  intro o lines retry
  have hfails : (o.reprice lines (.zero .usd) [noLineTotals]).outcome =
      .error (.tax "provider unavailable") := by
    decide +kernel
  have hchain : TaxChain.ReadsBase [{ }, vat 100] :=
    List.forall_mem_cons.2 ⟨TaxProvider.PassesThrough.readsBase ⟨_, rfl⟩,
      List.forall_mem_singleton.2 (FlatRates.readsBase _ _)⟩
  obtain ⟨-, -, -, hretry⟩ := reprice_cutShort hfails
  exact ⟨hfails, hchain, hretry _ _ hchain, by decide +kernel⟩

/-- **A failure does not leave everything as it was.** -/
def IsChangedByFailure (o : Order) (lines : List OrderLine) (discount : Money)
    (chain : TaxChain) : Prop :=
  (o.reprice lines discount chain).outcome ≠ .ok () ∧
    ¬((o.reprice lines discount chain).order = o ∧ (o.reprice lines discount chain).lines = lines)

/-- The prices of an item have been computed where the total of the line is not to be had, and the
price of shipping where its rate is not. -/
theorem isChangedByFailure_bookshop :
    unpricedOrder.IsChangedByFailure [unpricedLine] (.zero .usd) [noLineTotals] ∧
      unpricedOrder.IsChangedByFailure [] (.zero .usd) [noShippingRate] := by
  unfold IsChangedByFailure
  decide +kernel

end Order

end Storefront
