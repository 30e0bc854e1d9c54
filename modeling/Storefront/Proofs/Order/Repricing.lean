import Storefront.Order.Prices
import Storefront.Proofs.Checkout.OrderLines
import Storefront.Proofs.Tax.Chain

/-!
# Recalculating the prices of an order

Recalculating an order asks the tax providers about the prices that it keeps. Providers that treat
an order as they treat its checkout give the prices of lines and shipping that they gave before. The
totals are computed from these in another way than those of a checkout, so that they are kept where
the order adds up in that way.

* `TaxProvider.Matches`: a provider that treats an order as it treats its checkout.
* `repriceLine_repriced`, `repriceLines_iff`: what becomes of one line, and of all of them.
* `Order.AddsUp`: the totals of an order are those of its parts.
* `Order.reprice_prices`, `Order.reprice_keeps_iff`: what is kept of a whole order.
-/

namespace Storefront

/-! ## Changing a record step by step -/

namespace Updating

variable {σ α β : Type}

theorem run_bind (x : Updating σ α) (f : α → Updating σ β) (s : σ) :
    (x >>= f).run s = match x.run s with
      | (.ok a, s₁) => (f a).run s₁
      | (.error e, s₁) => (.error e, s₁) := by
  rw [ExceptT.run_bind]
  simp only [bind, StateT.bind]
  rcases x.run s with ⟨_ | _, _⟩ <;> rfl

theorem run_get (s : σ) : (get : Updating σ σ).run s = (.ok s, s) := rfl

theorem run_modify (f : σ → σ) (s : σ) : (modify f : Updating σ PUnit).run s = (.ok (), f s) := rfl

/-- What cannot change the record leaves it alone. -/
theorem run_lift (x : Except Error α) (s : σ) : (liftM x : Updating σ α).run s = (x, s) := by
  cases x <;> rfl

theorem run_store (compute : σ → Except Error α) (put : σ → α → σ) (s : σ) :
    (store compute put).run s = match compute s with
      | .ok a => (.ok (), put s a)
      | .error e => (.error e, s) := by
  unfold store
  simp only [run_bind, run_get, run_modify, run_lift]
  cases compute s <;> rfl

end Updating

/-! ## Providers -/

/-- The provider treats an order as it treats the checkout of a snapshot. Which line it is asked
about does not matter. -/
structure TaxProvider.Matches (provider : TaxProvider) (s : Snapshot) (o : Order) : Prop where
  lineUnit : ∀ l line, provider.orderLineUnit o line = provider.checkoutLineUnit s l
  lineTotal : ∀ l line, provider.orderLineTotal o line = provider.checkoutLineTotal s l
  lineRate : ∀ l line, provider.orderLineRate o line = provider.checkoutLineRate s l
  shipping : provider.orderShipping o = provider.checkoutShipping s
  shippingRate : provider.orderShippingRate o = provider.checkoutShippingRate s

/-- All providers of the chain treat the order as they treat the checkout. -/
def TaxChain.Matches (chain : TaxChain) (s : Snapshot) (o : Order) : Prop :=
  ∀ provider ∈ chain, provider.Matches s o

namespace TaxChain.Matches

variable {chain : TaxChain} {s : Snapshot} {o : Order}

theorem lineUnit (h : chain.Matches s o) (l : CheckoutLine) (line : OrderLine) :
    chain.orderLineUnit o line = chain.checkoutLineUnit s l :=
  funext <| price_congr fun provider hprovider => (h provider hprovider).lineUnit l line

theorem lineTotal (h : chain.Matches s o) (l : CheckoutLine) (line : OrderLine) :
    chain.orderLineTotal o line = chain.checkoutLineTotal s l :=
  funext <| price_congr fun provider hprovider => (h provider hprovider).lineTotal l line

theorem lineRate (h : chain.Matches s o) (l : CheckoutLine) (line : OrderLine) :
    chain.orderLineRate o line = chain.checkoutLineRate s l :=
  funext <| rate_congr fun provider hprovider => (h provider hprovider).lineRate l line

theorem shipping (h : chain.Matches s o) : chain.orderShipping o = chain.checkoutShipping s :=
  funext <| price_congr fun provider hprovider => (h provider hprovider).shipping

theorem shippingRate (h : chain.Matches s o) :
    chain.orderShippingRate o = chain.checkoutShippingRate s :=
  funext <| rate_congr fun provider hprovider => (h provider hprovider).shippingRate

end TaxChain.Matches

/-! ## Lines -/

section Lines

variable {chain : TaxChain} {s : Snapshot} {o : Order} {line : OrderLine}

/-- The price of an item of a line, computed anew. -/
def OrderLine.unitAnew (line : OrderLine) (chain : TaxChain) (o : Order) : Except Error Taxed :=
  chain.orderLineUnit o line (.untaxed line.baseUnitPrice)

/-- The total of a line without discounts, computed anew from the whole price. -/
def OrderLine.undiscountedAnew (line : OrderLine) (chain : TaxChain) (o : Order) :
    Except Error Taxed :=
  chain.orderLineTotal o line (.untaxed line.undiscountedBaseTotalPrice)

/-- The line with another price of an item and another total without discounts. -/
def OrderLine.withPrices (line : OrderLine) (unit undiscounted : Taxed) : OrderLine :=
  { line with unitPrice := unit, undiscountedTotalPrice := undiscounted }

@[simp] theorem OrderLine.totalPrice_withPrices (line : OrderLine) (unit undiscounted : Taxed) :
    (line.withPrices unit undiscounted).totalPrice = line.totalPrice := rfl

@[simp] theorem OrderLine.undiscountedTotalPrice_withPrices (line : OrderLine)
    (unit undiscounted : Taxed) :
    (line.withPrices unit undiscounted).undiscountedTotalPrice = undiscounted := rfl

theorem Subtotals.add_withPrices (sums : Subtotals) (line : OrderLine) (unit : Taxed) :
    sums.add (line.withPrices unit line.undiscountedTotalPrice) = sums.add line := rfl

/-- What becomes of a line that has the prices of its checkout: only the price of an item and the
total without discounts may change, or there is no answer for one of them. -/
inductive OrderLine.Repriced (chain : TaxChain) (o : Order) (line : OrderLine) :
    Except Error Unit × OrderLine → Prop
  | done {unit undiscounted : Taxed} (hunit : line.unitAnew chain o = .ok unit)
    (hundiscounted : line.undiscountedAnew chain o = .ok undiscounted) :
    Repriced chain o line (.ok (), line.withPrices unit undiscounted)
  | unitFailed {e : Error} (hunit : line.unitAnew chain o = .error e) :
    Repriced chain o line (.error e, line)
  | undiscountedFailed {unit : Taxed} {e : Error}
    (hundiscounted : line.undiscountedAnew chain o = .error e) :
    Repriced chain o line (.error e, line.withPrices unit line.undiscountedTotalPrice)

/-- **What becomes of a line.** -/
theorem repriceLine_repriced (hchain : chain.Matches s o) {l : CheckoutLine}
    (h : s.Prices chain l line) :
    OrderLine.Repriced chain o line ((repriceLine chain o).run line) := by
  obtain ⟨_, total, -, htotal, -, hbase, -, -⟩ := h.base
  have hline : chain.checkoutLineTotal s l (.untaxed line.baseTotalPrice) =
      .ok line.totalPrice := by
    have hprice := h.total
    rw [Snapshot.lineTotal, htotal, ok_bind] at hprice
    rw [hbase]
    exact hprice
  -- what does not change the line to begin with is asked about the line that has been changed
  have hunit' (line' : OrderLine) : chain.orderLineUnit o line'
      (.untaxed line.undiscountedBaseUnitPrice) = .ok line.undiscountedUnitPrice := by
    rw [hchain.lineUnit l]
    exact h.undiscountedUnit
  have htotal' (line' : OrderLine) : chain.orderLineTotal o line' (.untaxed line.baseTotalPrice) =
      .ok line.totalPrice := by
    rw [hchain.lineTotal l]
    exact hline
  have hrate' (line' : OrderLine) :
      (do chain.orderLineRate o line' (← line.totalPrice.rate)) = .ok line.taxRate := by
    rw [hchain.lineRate l]
    exact h.taxRate
  have hundiscounted' (line' : OrderLine) : chain.orderLineTotal o line'
      (.untaxed line.undiscountedBaseTotalPrice) = line.undiscountedAnew chain o := by
    rw [OrderLine.undiscountedAnew, hchain.lineTotal l, hchain.lineTotal l]
  cases hunit : line.unitAnew chain o with
  | error e =>
    have hunit' : chain.orderLineUnit o line (.untaxed line.baseUnitPrice) = .error e := hunit
    simp only [repriceLine, Updating.run_bind, Updating.run_store, hunit']
    exact .unitFailed hunit
  | ok unit =>
    have hunit₀ : chain.orderLineUnit o line (.untaxed line.baseUnitPrice) = .ok unit := hunit
    simp only [repriceLine, Updating.run_bind, Updating.run_store, hunit₀, hunit', htotal',
      hundiscounted']
    cases hundiscounted : line.undiscountedAnew chain o with
    | error e => exact .undiscountedFailed hundiscounted
    | ok undiscounted =>
      simp only [hrate']
      exact .done hunit hundiscounted

/-- A line adds up for a chain: the price of an item has an answer, and the total without discounts
is the one that the line has. -/
def OrderLine.AddsUp (line : OrderLine) (chain : TaxChain) (o : Order) : Prop :=
  (∃ unit, line.unitAnew chain o = .ok unit) ∧
    line.undiscountedAnew chain o = .ok line.undiscountedTotalPrice

variable {lines : List OrderLine}

/-- **The totals of lines are kept**, also where the computation fails. -/
theorem map_totalPrice_repriceLines (sums : Subtotals) (hchain : chain.Matches s o)
    (h : ∀ line ∈ lines, ∃ l, s.Prices chain l line) :
    (repriceLines chain o sums lines).2.map (·.totalPrice) = lines.map (·.totalPrice) := by
  induction lines generalizing sums with
  | nil => rfl
  | cons line rest ih =>
    obtain ⟨⟨l, hl⟩, hrest⟩ := List.forall_mem_cons.1 h
    have hline := repriceLine_repriced hchain hl
    rw [repriceLines]
    generalize (repriceLine chain o).run line = result at hline
    cases hline with
    | unitFailed | undiscountedFailed => rfl
    | @done unit undiscounted =>
      dsimp only
      cases sums.add (line.withPrices unit undiscounted) with
      | error e => rfl
      | ok next => simp [ih next hrest]

/-- **Where the totals without discounts are kept**: exactly where each line adds up and they can
be summed. -/
theorem repriceLines_iff (sums sums' : Subtotals) (hchain : chain.Matches s o)
    (h : ∀ line ∈ lines, ∃ l, s.Prices chain l line) :
    (repriceLines chain o sums lines).1 = .ok sums' ∧
        (repriceLines chain o sums lines).2.map (·.undiscountedTotalPrice) =
          lines.map (·.undiscountedTotalPrice) ↔
      (∀ line ∈ lines, line.AddsUp chain o) ∧ lines.foldlM Subtotals.add sums = .ok sums' := by
  induction lines generalizing sums with
  | nil => simp [repriceLines, pure, Except.pure]
  | cons line rest ih =>
    obtain ⟨⟨l, hl⟩, hrest⟩ := List.forall_mem_cons.1 h
    have hline := repriceLine_repriced hchain hl
    rw [repriceLines, List.forall_mem_cons, List.foldlM_cons, OrderLine.AddsUp]
    generalize (repriceLine chain o).run line = result at hline
    cases hline with
    | unitFailed hunit => simp [hunit]
    | undiscountedFailed hundiscounted => simp [hundiscounted]
    | @done unit undiscounted hunit hundiscounted =>
      dsimp only
      by_cases hsame : undiscounted = line.undiscountedTotalPrice
      · subst hsame
        rw [Subtotals.add_withPrices]
        cases sums.add line with
        | error e => simp [bind, Except.bind]
        | ok next => simp [ok_bind, hunit, hundiscounted, ih next hrest]
      · cases sums.add (line.withPrices unit undiscounted) <;> simp [hundiscounted, hsame]

end Lines

/-! ## Orders -/

namespace Order

/-- What lines and shipping cost together less a discount, the way an order adds it up. -/
def totalOf (o : Order) (lines : Taxed) (discount : Money) : Except Error Taxed := do
  let withShipping ← lines.add o.shippingPrice
  return (← withShipping.subAmount (discount.min withShipping.gross)).floorAtZero

/-- What becomes of an order whose shipping keeps its price: the totals are computed anew, as far as
that goes. -/
inductive Repriced (o : Order) (sums : Subtotals) (discount : Money) :
    Except Error Unit × Order → Prop
  | done {total undiscountedTotal : Taxed} {discounts : List OrderDiscount}
    (htotal : o.totalOf sums.discounted discount = .ok total)
    (hundiscounted : sums.undiscounted.add o.shippingPrice = .ok undiscountedTotal) :
    Repriced o sums discount (.ok (), { o with total, undiscountedTotal, discounts })
  | totalFailed {e : Error} (htotal : o.totalOf sums.discounted discount = .error e) :
    Repriced o sums discount (.error e, o)
  | undiscountedFailed {total : Taxed} {e : Error}
    (hundiscounted : sums.undiscounted.add o.shippingPrice = .error e) :
    Repriced o sums discount (.error e, { o with total })

/-- An order has the shipping prices of a snapshot. -/
structure Ships (o : Order) (s : Snapshot) (chain : TaxChain) : Prop where
  base : o.baseShippingPrice = s.deliveryPrice
  price : s.shippingPrice chain = .ok o.shippingPrice
  rate : s.shippingTaxRateOf chain o.shippingPrice = .ok o.shippingTaxRate

end Order

section Orders

variable {chain : TaxChain} {s : Snapshot} {o : Order}

/-- **What becomes of an order.** -/
theorem repriceOrder_repriced (sums : Subtotals) (discount : Money) (hchain : chain.Matches s o)
    (h : o.Ships s chain) :
    o.Repriced sums discount ((repriceOrder chain discount sums).run o) := by
  have hprice : chain.orderShipping o (.untaxed o.baseShippingPrice) = .ok o.shippingPrice := by
    rw [hchain.shipping, h.base]
    exact h.price
  have hrate : (do chain.orderShippingRate o (← o.shippingPrice.rate)) =
      .ok o.shippingTaxRate := by
    rw [hchain.shippingRate]
    exact h.rate
  simp only [repriceOrder, Updating.run_bind, Updating.run_store, Updating.run_get,
    Updating.run_lift, Updating.run_modify, hprice, hrate]
  cases hshipped : sums.discounted.add o.shippingPrice with
  | error e =>
    refine .totalFailed ?_
    rw [Order.totalOf, hshipped]
    rfl
  | ok withShipping =>
    dsimp only
    cases hleft : withShipping.subAmount (discount.min withShipping.gross) with
    | error e =>
      refine .totalFailed ?_
      rw [Order.totalOf, hshipped, ok_bind, hleft]
      rfl
    | ok left =>
      have htotal : o.totalOf sums.discounted discount = .ok left.floorAtZero := by
        rw [Order.totalOf, hshipped, ok_bind, hleft]
        rfl
      dsimp only
      cases hundiscounted : sums.undiscounted.add o.shippingPrice with
      | error e => exact .undiscountedFailed hundiscounted
      | ok undiscounted => exact .done htotal hundiscounted

end Orders

/-- Recalculating has succeeded and kept the prices of the order. -/
structure Repricing.Keeps (r : Repricing) (o : Order) (lines : List OrderLine) : Prop where
  outcome : r.outcome = .ok ()
  total : r.order.total = o.total
  undiscountedTotal : r.order.undiscountedTotal = o.undiscountedTotal
  shippingPrice : r.order.shippingPrice = o.shippingPrice
  lineTotals : r.lines.map (·.totalPrice) = lines.map (·.totalPrice)
  undiscountedLineTotals :
    r.lines.map (·.undiscountedTotalPrice) = lines.map (·.undiscountedTotalPrice)

instance (r : Repricing) (o : Order) (lines : List OrderLine) : Decidable (r.Keeps o lines) :=
  decidable_of_iff (r.outcome = .ok () ∧ r.order.total = o.total ∧
      r.order.undiscountedTotal = o.undiscountedTotal ∧ r.order.shippingPrice = o.shippingPrice ∧
      r.lines.map (·.totalPrice) = lines.map (·.totalPrice) ∧
      r.lines.map (·.undiscountedTotalPrice) = lines.map (·.undiscountedTotalPrice))
    ⟨fun ⟨h₁, h₂, h₃, h₄, h₅, h₆⟩ => ⟨h₁, h₂, h₃, h₄, h₅, h₆⟩,
      fun h => ⟨h.outcome, h.total, h.undiscountedTotal, h.shippingPrice, h.lineTotals,
        h.undiscountedLineTotals⟩⟩

namespace Order

variable {chain : TaxChain} {s : Snapshot} {o : Order} {lines : List OrderLine}

/-- An order adds up for a chain: its lines do, and its totals are those of its lines and of its
shipping, the discount taken off what they cost with tax. -/
structure AddsUp (o : Order) (lines : List OrderLine) (discount : Money) (chain : TaxChain) :
    Prop where
  eachLine : ∀ line ∈ lines, line.AddsUp chain o
  totals : ∃ sums, lines.foldlM Subtotals.add ⟨.zero o.currency, .zero o.currency⟩ = .ok sums ∧
    o.totalOf sums.discounted discount = .ok o.total ∧
    sums.undiscounted.add o.shippingPrice = .ok o.undiscountedTotal

/-- **The prices of shipping and of the lines are kept**, whatever else becomes of the order. -/
theorem reprice_prices (discount : Money) (hchain : chain.Matches s o) (hships : o.Ships s chain)
    (hlines : ∀ line ∈ lines, ∃ l, s.Prices chain l line) :
    (o.reprice lines discount chain).order.shippingPrice = o.shippingPrice ∧
      (o.reprice lines discount chain).lines.map (·.totalPrice) = lines.map (·.totalPrice) := by
  have htotals := map_totalPrice_repriceLines ⟨.zero o.currency, .zero o.currency⟩ hchain hlines
  unfold reprice
  dsimp only
  generalize repriceLines chain o _ lines = priced at htotals
  obtain ⟨e | sums, lines'⟩ := priced
  · exact ⟨rfl, htotals⟩
  · have horder := repriceOrder_repriced sums discount hchain hships
    dsimp only
    generalize (repriceOrder chain discount sums).run o = result at horder
    cases horder with
    | done | totalFailed | undiscountedFailed => exact ⟨rfl, htotals⟩

/-- **All prices are kept exactly where the order adds up.** -/
theorem reprice_keeps_iff (discount : Money) (hchain : chain.Matches s o)
    (hships : o.Ships s chain) (hlines : ∀ line ∈ lines, ∃ l, s.Prices chain l line) :
    (o.reprice lines discount chain).Keeps o lines ↔ o.AddsUp lines discount chain := by
  have htotals := map_totalPrice_repriceLines ⟨.zero o.currency, .zero o.currency⟩ hchain hlines
  have hpriced (sums' : Subtotals) :=
    repriceLines_iff ⟨.zero o.currency, .zero o.currency⟩ sums' hchain hlines
  unfold reprice
  dsimp only
  generalize repriceLines chain o _ lines = priced at htotals hpriced
  obtain ⟨e | sums, lines'⟩ := priced
  · refine ⟨fun hkept => (nomatch hkept.outcome), fun hadds => ?_⟩
    obtain ⟨sums', hsums, -⟩ := hadds.totals
    obtain ⟨hfailed, -⟩ := (hpriced sums').2 ⟨hadds.eachLine, hsums⟩
    cases hfailed
  have horder := repriceOrder_repriced sums discount hchain hships
  dsimp only
  generalize (repriceOrder chain discount sums).run o = result at horder
  refine ⟨fun hkept => ?_, fun hadds => ?_⟩
  · obtain ⟨heach, hsums⟩ := (hpriced sums).1 ⟨rfl, hkept.undiscountedLineTotals⟩
    cases horder with
    | totalFailed | undiscountedFailed => cases hkept.outcome
    | done htotal hundiscounted =>
      obtain rfl := hkept.total
      obtain rfl := hkept.undiscountedTotal
      exact ⟨heach, sums, hsums, htotal, hundiscounted⟩
  · obtain ⟨sums', hsums, htotal, hundiscounted⟩ := hadds.totals
    obtain ⟨hsame, hundiscountedTotals⟩ := (hpriced sums').2 ⟨hadds.eachLine, hsums⟩
    obtain rfl := Except.ok.inj hsame
    cases horder with
    | totalFailed hfailed => cases hfailed.symm.trans htotal
    | undiscountedFailed hfailed => cases hfailed.symm.trans hundiscounted
    | done htotal' hundiscounted' =>
      exact {
        outcome := rfl
        total := Except.ok.inj (htotal'.symm.trans htotal)
        undiscountedTotal := Except.ok.inj (hundiscounted'.symm.trans hundiscounted)
        shippingPrice := rfl
        lineTotals := htotals
        undiscountedLineTotals := hundiscountedTotals }

end Order

end Storefront
