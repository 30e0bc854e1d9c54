import Storefront.Proofs.Completion.Total
import Storefront.Proofs.Money.Whole
import Storefront.Proofs.Order.Repricing
import Storefront.Proofs.Tax.Chain

/-!
# Recalculating an order that has just been created

The prices of a checkout and those of an order are computed in two ways. Where the tax providers
find the same rates for both, what is priced on its own comes to the same: shipping and each line.
The totals do not have to. A checkout takes its discount off before tax and rounds the sum, and an
order takes it off its taxed lines; an order line multiplies the taxed price of an item, and
recalculating taxes the whole line.

* `TaxProvider.IsFlat`: a provider that does nothing or has flat rates, the same for both.
* `Attempt.Prepared.addsUp_of_untaxed`: an order without taxes, in minor units, adds up.
* `Attempt.complete_recalculated`: what recalculating keeps of an order that has been created.
* `Attempt.revalues_bookshop`: a discount with taxes does not come to the same.
-/

namespace Storefront

/-! ## Providers -/

/-- A provider that leaves all prices and rates as they are. -/
def TaxProvider.PassesThrough (provider : TaxProvider) : Prop :=
  ∃ prepare, provider = { prepareOrder := prepare }

/-- A provider that does nothing, or one with flat rates that has one rate for the order and for the
checkout of a snapshot. -/
inductive TaxProvider.IsFlat (s : Snapshot) (o : Order) : TaxProvider → Prop
  | passesThrough {provider : TaxProvider} (h : provider.PassesThrough) : IsFlat s o provider
  | rates (r : FlatRates) (entryIncludesTax : Bool)
    (hrate : r.rateFor (FlatRates.orderCountry o) = r.rateFor (some s.country)) :
    IsFlat s o (r.provider entryIncludesTax)

/-- Such a provider treats the order as it treats the checkout. -/
theorem TaxProvider.IsFlat.matches {s : Snapshot} {o : Order} {provider : TaxProvider}
    (h : provider.IsFlat s o) : provider.Matches s o := by
  cases h with
  | passesThrough h =>
    obtain ⟨prepare, rfl⟩ := h
    exact ⟨fun _ _ => rfl, fun _ _ => rfl, fun _ _ => rfl, rfl, rfl⟩
  | rates r entryIncludesTax hrate =>
    have hshipping : r.shippingRateFor (FlatRates.orderCountry o) =
        r.shippingRateFor (some s.country) := by
      rw [FlatRates.shippingRateFor, FlatRates.shippingRateFor, hrate]
    constructor <;> intros <;> simp only [FlatRates.provider, hrate, hshipping]

/-- All providers of the chain leave prices and rates as they are. -/
def TaxChain.PassesThrough (chain : TaxChain) : Prop :=
  ∀ provider ∈ chain, provider.PassesThrough

/-- A chain of providers that do nothing only rounds. -/
theorem TaxChain.PassesThrough.price {chain : TaxChain} (h : chain.PassesThrough)
    {ask : TaxProvider → Taxed → Except Error Taxed}
    (hask : ∀ prepare, ask { prepareOrder := prepare } = .ok) (price : Taxed) :
    chain.price ask price = .ok price.quantize := by
  have hsettle : chain.settle ask price = .ok price := by
    induction chain with
    | nil => rfl
    | cons provider rest ih =>
      obtain ⟨⟨prepare, rfl⟩, hrest⟩ := List.forall_mem_cons.1 h
      rw [settle, hask, ok_bind, ih hrest, ite_self]
  rw [TaxChain.price, hsettle]
  rfl

/-! ## Lines without taxes -/

/-- A line that has its prices before tax as its prices, in minor units. -/
structure OrderLine.IsUntaxed (line : OrderLine) : Prop where
  total : line.totalPrice = .untaxed line.baseTotalPrice
  undiscountedTotal : line.undiscountedTotalPrice = .untaxed line.undiscountedBaseTotalPrice
  whole : line.baseTotalPrice.quantize = line.baseTotalPrice
  undiscountedWhole :
    line.undiscountedBaseTotalPrice.quantize = line.undiscountedBaseTotalPrice

section Lines

variable {s : Snapshot} {chain : TaxChain} {l : CheckoutLine} {line : OrderLine}
  {lines : List OrderLine}

/-- Providers that do nothing leave the prices of a line as they are before tax, if the price of the
variant is in minor units. -/
theorem Snapshot.Prices.isUntaxed (h : s.Prices chain l line) (hchain : chain.PassesThrough)
    (hprice : l.price.quantize = l.price) : line.IsUntaxed := by
  obtain ⟨_, total, -, htotal, -, hbase, hundiscountedBase, -⟩ := h.base
  obtain ⟨exact, undiscounted, _, _, hexact, hundiscounted, -, rfl, -⟩ :=
    CheckoutLine.totalPrice_ok htotal
  obtain ⟨_, -, hcatalog⟩ := CheckoutLine.exactUnitPrice_ok hexact
  -- the price of an item is that of the catalog, and rounding does not change it
  have htaxed := h.undiscountedUnit
  rw [TaxChain.checkoutLineUnit, hchain.price fun _ => rfl, h.undiscountedBaseUnitPrice_eq,
    Taxed.quantize_untaxed, hprice, hprice] at htaxed
  obtain ⟨all, hall, hundiscountedTotal⟩ := h.undiscountedTotal
  rw [← Except.ok.inj htaxed, ← hcatalog, Taxed.times_untaxed hundiscounted] at hall
  obtain rfl := Except.ok.inj hall
  have hline := h.total
  rw [Snapshot.lineTotal, htotal, ok_bind, ← hbase, TaxChain.checkoutLineTotal,
    hchain.price fun _ => rfl, Taxed.quantize_untaxed] at hline
  have hwhole : line.baseTotalPrice.quantize = line.baseTotalPrice := by
    rw [hbase]
    exact Money.quantize_quantize _
  rw [hwhole] at hline
  exact {
    total := (Except.ok.inj hline).symm
    undiscountedTotal := by
      rw [hundiscountedTotal, hundiscountedBase]
      rfl
    whole := hwhole
    undiscountedWhole := by
      rw [hundiscountedBase]
      exact Money.quantize_quantize _ }

/-- Lines without taxes add up. -/
theorem OrderLine.IsUntaxed.addsUp (h : line.IsUntaxed) (hchain : chain.PassesThrough)
    (o : Order) : line.AddsUp chain o := by
  refine ⟨⟨_, hchain.price (fun _ => rfl) _⟩, ?_⟩
  rw [OrderLine.undiscountedAnew, TaxChain.orderLineTotal, hchain.price fun _ => rfl,
    Taxed.quantize_untaxed, h.undiscountedWhole, h.undiscountedTotal]

/-- Their sums are those of the prices before tax. -/
theorem Subtotals.foldlM_untaxed {acc acc' sum sum' : Money}
    (h : ∀ line ∈ lines, line.IsUntaxed)
    (hsum : (lines.map (·.baseTotalPrice)).foldlM Money.add acc = .ok sum)
    (hsum' : (lines.map (·.undiscountedBaseTotalPrice)).foldlM Money.add acc' = .ok sum') :
    lines.foldlM Subtotals.add ⟨.untaxed acc, .untaxed acc'⟩ =
      .ok ⟨.untaxed sum, .untaxed sum'⟩ := by
  induction lines generalizing acc acc' with
  | nil =>
    cases hsum
    cases hsum'
    rfl
  | cons line rest ih =>
    obtain ⟨hline, hrest⟩ := List.forall_mem_cons.1 h
    obtain ⟨next, hnext, hsum⟩ := Money.foldlM_cons_ok hsum
    obtain ⟨next', hnext', hsum'⟩ := Money.foldlM_cons_ok hsum'
    rw [List.foldlM_cons, Subtotals.add, hline.total, hline.undiscountedTotal,
      Taxed.add_untaxed hnext, Taxed.add_untaxed hnext']
    exact ih hrest hsum hsum'

/-- The total without discounts of an order without taxes is a sum of prices before tax. -/
theorem foldlM_undiscountedTotalPrice {acc : Money} {total : Taxed}
    (h : ∀ line ∈ lines, line.IsUntaxed)
    (htotal : lines.foldlM (fun (sum : Taxed) line => sum.add line.undiscountedTotalPrice)
      (.untaxed acc) = .ok total) :
    ∃ sum, total = .untaxed sum ∧
      (lines.map (·.undiscountedBaseTotalPrice)).foldlM Money.add acc = .ok sum := by
  induction lines generalizing acc with
  | nil =>
    cases htotal
    exact ⟨acc, rfl, rfl⟩
  | cons line rest ih =>
    obtain ⟨hline, hrest⟩ := List.forall_mem_cons.1 h
    obtain ⟨next, hnext, htotal⟩ := bind_ok htotal
    have hnext : (Taxed.untaxed acc).add line.undiscountedTotalPrice = .ok next := hnext
    rw [hline.undiscountedTotal] at hnext
    obtain ⟨first, hfirst, rfl⟩ := Taxed.add_untaxed_ok hnext
    obtain ⟨sum, rfl, hsum⟩ := ih hrest htotal
    refine ⟨sum, rfl, ?_⟩
    rw [List.map_cons, List.foldlM_cons, hfirst]
    exact hsum

end Lines

/-! ## Totals without taxes -/

/-- The discount that is recorded in an order. -/
def Order.recordedDiscount (o : Order) : Money :=
  (o.discounts.head?.map (·.amount)).getD (Money.zero o.currency)

/-- What shipping and the lines cost without discounts is not too large. -/
def Order.InRange (o : Order) (lines : List OrderLine) : Prop :=
  Money.InRange o.currency (o.shippingPrice.gross :: lines.map (·.undiscountedTotalPrice.gross))

instance Order.decidableInRange (o : Order) (lines : List OrderLine) :
    Decidable (o.InRange lines) :=
  inferInstanceAs (Decidable (Money.InRange _ _))

/-- The total of an order without taxes. -/
theorem Order.totalOf_untaxed {o : Order} {subtotal delivery shipped discount left : Money}
    (hshipping : o.shippingPrice = .untaxed delivery)
    (hshipped : subtotal.add delivery = .ok shipped) (hleft : shipped.sub discount = .ok left) :
    o.totalOf (.untaxed subtotal) discount = .ok (.untaxed left.floorAtZero) := by
  obtain ⟨rest, hrest, hsame⟩ := Money.sub_min hleft
  rw [Order.totalOf, hshipping, Taxed.add_untaxed hshipped, ok_bind, Taxed.subAmount,
    show (Taxed.untaxed shipped).gross = shipped from rfl, Taxed.sub_untaxed hrest, ← hsame]
  rfl

namespace Snapshot

/-- The prices of the variants and the discount are in minor units, and without a voucher there is
no discount. -/
structure InMinorUnits (s : Snapshot) : Prop where
  prices : ∀ l ∈ s.lines, l.price.quantize = l.price
  discount : s.checkout.discount.quantize = s.checkout.discount
  stored : s.checkout.voucherCode = none → s.checkout.discount.amount = 0

variable {s : Snapshot} {chain : TaxChain}

theorem InMinorUnits.quantize_discount (h : s.InMinorUnits) : s.discount.quantize = s.discount := by
  unfold Snapshot.discount
  split
  · exact Money.quantize_zero _
  · exact h.discount

/-- The total of a checkout where the providers do nothing. -/
theorem total_of_passesThrough (hchain : chain.PassesThrough) {price : Taxed}
    (h : s.total chain = .ok price) :
    ∃ subtotal shipped left, s.subtotal = .ok subtotal ∧
      subtotal.add s.deliveryPrice = .ok shipped ∧ shipped.sub s.discount = .ok left ∧
      price = .untaxed left.floorAtZero.quantize.floorAtZero := by
  obtain ⟨subtotal, hsubtotal, h⟩ := bind_ok h
  obtain ⟨base, hbase, h⟩ := bind_ok h
  obtain ⟨shipped, hshipped, hbase⟩ := bind_ok hbase
  obtain ⟨left, hleft, hbase⟩ := bind_ok hbase
  cases hbase
  rw [TaxChain.checkoutTotal, hchain.price fun _ => rfl, ok_bind] at h
  cases h
  exact ⟨subtotal, shipped, left, hsubtotal, hshipped, hleft, rfl⟩

end Snapshot

namespace Attempt

variable {a : Attempt} {t t' : Tables} {plan : OrderPlan} {payment : Option Payment}
  {settled : Option SettledPayment} {c : Creation}

/-- The order of a plan has the shipping prices of its checkout. -/
theorem Prepared.ships (h : a.Prepared t plan payment) (hc : a.Creates plan settled t' c) :
    c.order.Ships plan.snapshot a.taxes := by
  obtain ⟨_, _, -, -, -, hplan⟩ := h.priced
  obtain ⟨hbase, hprice, hrate⟩ := Snapshot.plan_shipping hplan
  have hprice' : c.order.shippingPrice = plan.shippingPrice := hc.prices.2.1
  have hrate' : c.order.shippingTaxRate = plan.shippingTaxRate :=
    hc.of_plan (·.shippingTaxRate) fun _ _ _ _ _ => rfl
  exact {
    base := (hc.of_plan (·.baseShippingPrice) fun _ _ _ _ _ => rfl).trans hbase
    price := hprice' ▸ hprice
    rate := by
      rw [hprice', hrate']
      exact hrate }

/-- Each line of a plan has the prices of a line of its checkout. -/
theorem Prepared.linePrices (h : a.Prepared t plan payment) :
    ∀ line ∈ plan.lines.map (·.line), ∃ l ∈ plan.snapshot.lines,
      plan.snapshot.Prices a.taxes l line := by
  obtain ⟨_, _, -, -, -, hplan⟩ := h.priced
  have hlines := (Snapshot.plan_ok hplan).2.2.2
  refine List.forall_mem_map.2 fun l hl => ⟨l.source, ?_, Snapshot.orderLines_prices hlines l hl⟩
  rw [← (Snapshot.orderLines_map hlines).1]
  exact List.mem_map_of_mem hl

theorem Prepared.isUntaxed (h : a.Prepared t plan payment) (hchain : a.taxes.PassesThrough)
    (hwhole : plan.snapshot.InMinorUnits) :
    ∀ line ∈ plan.lines.map (·.line), line.IsUntaxed := by
  intro line hline
  obtain ⟨l, hl, hprices⟩ := h.linePrices line hline
  exact hprices.isUntaxed hchain (hwhole.prices l hl)

theorem Prepared.currency_order (h : a.Prepared t plan payment)
    (hc : a.Creates plan settled t' c) :
    c.order.currency = plan.snapshot.checkout.currency := by
  rw [Order.currency, hc.prices.1, h.currency_total]

theorem Prepared.shippingPrice_untaxed (h : a.Prepared t plan payment)
    (hc : a.Creates plan settled t' c) (hchain : a.taxes.PassesThrough) :
    c.order.shippingPrice = .untaxed plan.snapshot.deliveryPrice := by
  have hprice := (h.ships hc).price
  rw [Snapshot.shippingPrice, TaxChain.checkoutShipping, hchain.price fun _ => rfl,
    Taxed.quantize_untaxed, Snapshot.quantize_deliveryPrice] at hprice
  exact (Except.ok.inj hprice).symm

/-- The prices of the lines before tax come to the subtotal of the checkout. -/
theorem Prepared.sum_of_subtotal (h : a.Prepared t plan payment) {subtotal : Money}
    (hsubtotal : plan.snapshot.subtotal = .ok subtotal) :
    Money.sum plan.snapshot.checkout.currency
      ((plan.lines.map (·.line)).map (·.baseTotalPrice)) = .ok subtotal := by
  obtain ⟨_, _, -, -, -, hplan⟩ := h.priced
  rw [Snapshot.subtotal, CheckoutLine.subtotal,
    Snapshot.mapM_baseTotalPrice (Snapshot.plan_ok hplan).2.2.2] at hsubtotal
  rw [List.map_map]
  exact hsubtotal

/-- The total of an order without taxes and gift cards is not rounded. -/
theorem Prepared.total_untaxed (h : a.Prepared t plan payment) (hc : a.Creates plan settled t' c)
    (hchain : a.taxes.PassesThrough) (hcards : plan.snapshot.checkout.giftCardIds = [])
    (hwhole : plan.snapshot.InMinorUnits) :
    ∃ subtotal shipped left, Money.sum plan.snapshot.checkout.currency
        ((plan.lines.map (·.line)).map (·.baseTotalPrice)) = .ok subtotal ∧
      subtotal.add plan.snapshot.deliveryPrice = .ok shipped ∧
      shipped.sub plan.snapshot.discount = .ok left ∧
      c.order.total = .untaxed left.floorAtZero := by
  obtain ⟨_, balance, -, hbalance, -, hplan⟩ := h.priced
  rw [hcards] at hbalance
  obtain rfl := Except.ok.inj hbalance
  obtain ⟨subtotal, shipped, left, hsubtotal, hshipped, hleft, hprice⟩ :=
    Snapshot.total_of_passesThrough hchain (Snapshot.plan_prices hplan).1
  have hsum := h.sum_of_subtotal hsubtotal
  have hsubtotal : subtotal.quantize = subtotal :=
    Money.quantize_foldlM_add (Money.quantize_zero _)
      (List.forall_mem_map.2 fun line hline => (h.isUntaxed hchain hwhole line hline).whole) hsum
  have hquantize : left.quantize = left :=
    Money.quantize_sub (Money.quantize_add hsubtotal (Snapshot.quantize_deliveryPrice _) hshipped)
      hwhole.quantize_discount hleft
  refine ⟨subtotal, shipped, left, hsum, hshipped, hleft, ?_⟩
  obtain ⟨rest, hrest, htotal⟩ := Snapshot.plan_total hplan
  rw [hprice] at hrest
  obtain ⟨x, hx, rfl⟩ := Taxed.sub_untaxed_ok hrest
  obtain rfl := Money.eq_of_sub_zero hx
  rw [Money.quantize_floorAtZero hquantize, Taxed.floorAtZero_untaxed,
    Money.floorAtZero_floorAtZero, Money.floorAtZero_floorAtZero] at htotal
  exact hc.prices.1.trans htotal

/-- The total without discounts of an order without taxes is the sum of its lines and of shipping,
in either order. -/
theorem Prepared.undiscountedTotal_untaxed (h : a.Prepared t plan payment)
    (hc : a.Creates plan settled t' c) (hchain : a.taxes.PassesThrough)
    (hwhole : plan.snapshot.InMinorUnits)
    (hcurrency : plan.snapshot.deliveryPrice.currency = plan.snapshot.checkout.currency)
    (hrange : c.order.InRange (plan.lines.map (·.line))) :
    ∃ sum, Money.sum plan.snapshot.checkout.currency
        ((plan.lines.map (·.line)).map (·.undiscountedBaseTotalPrice)) = .ok sum ∧
      (Taxed.untaxed sum).add c.order.shippingPrice = .ok c.order.undiscountedTotal := by
  obtain ⟨_, _, -, -, -, hplan⟩ := h.priced
  have hsum := Snapshot.plan_undiscountedTotal hplan
  have hlines := h.isUntaxed hchain hwhole
  have hshipping := h.shippingPrice_untaxed hc hchain
  have htotal : (plan.lines.map (·.line)).foldlM
      (fun (sum : Taxed) line => sum.add line.undiscountedTotalPrice)
      (.untaxed plan.snapshot.deliveryPrice) = .ok c.order.undiscountedTotal := by
    rw [List.foldlM_map, ← hshipping, hc.prices.2.1,
      hc.of_plan (·.undiscountedTotal) fun _ _ _ _ _ => rfl]
    exact hsum
  obtain ⟨total, hsame, hfold⟩ := foldlM_undiscountedTotalPrice hlines htotal
  have hgross : (plan.lines.map (·.line)).map (·.undiscountedTotalPrice.gross) =
      (plan.lines.map (·.line)).map (·.undiscountedBaseTotalPrice) :=
    List.map_congr_left fun line hline =>
      congrArg Taxed.gross (hlines line hline).undiscountedTotal
  rw [Order.InRange, h.currency_order hc, hshipping, ← hcurrency, hgross] at hrange
  have hall : ∀ m ∈ plan.snapshot.deliveryPrice ::
      (plan.lines.map (·.line)).map (·.undiscountedBaseTotalPrice), m.quantize = m :=
    List.forall_mem_cons.2 ⟨Snapshot.quantize_deliveryPrice _,
      List.forall_mem_map.2 fun line hline => (hlines line hline).undiscountedWhole⟩
  obtain ⟨sum, hsum, hadd⟩ := Money.sum_add_of_foldlM hfold hall hrange
  refine ⟨sum, hcurrency ▸ hsum, ?_⟩
  rw [hshipping, hsame]
  exact Taxed.add_untaxed hadd

/-- The discount recorded in an order is what has come off the total of its checkout. -/
theorem Prepared.recordedDiscount (h : a.Prepared t plan payment)
    (hc : a.Creates plan settled t' c) (hwhole : plan.snapshot.InMinorUnits)
    {shipped left : Money} (hleft : shipped.sub plan.snapshot.discount = .ok left)
    (hcurrency : shipped.currency = plan.snapshot.checkout.currency) :
    c.order.recordedDiscount = plan.snapshot.discount := by
  obtain ⟨-, -, hdiscounts⟩ := hc.prices
  have hsame : plan.snapshot.checkout.currency = plan.snapshot.discount.currency :=
    hcurrency.symm.trans (Money.sub_ok hleft).1
  rw [Order.recordedDiscount, hdiscounts, OrderPlan.discounts, h.currency_order hc]
  unfold Snapshot.discount at hsame ⊢
  rw [← h.voucher_snapshot] at hsame ⊢
  cases hvoucher : plan.voucher with
  | none =>
    rw [hvoucher] at hsame
    rw [Option.any_none, if_neg Bool.false_ne_true] at hsame ⊢
    have hzero := hwhole.stored (h.code hvoucher)
    show Money.zero _ = _
    rw [Money.zero, hsame, ← hzero]
  | some v => cases hlevel : v.isLineLevel <;> simp [hlevel, Option.filter]

/-- **An order without taxes adds up**, if prices and discount are in minor units. -/
theorem Prepared.addsUp_of_untaxed (h : a.Prepared t plan payment)
    (hc : a.Creates plan settled t' c) (hchain : a.taxes.PassesThrough)
    (hcards : plan.snapshot.checkout.giftCardIds = []) (hwhole : plan.snapshot.InMinorUnits)
    (hrange : c.order.InRange (plan.lines.map (·.line))) :
    c.order.AddsUp (plan.lines.map (·.line)) c.order.recordedDiscount a.taxes := by
  have hlines := h.isUntaxed hchain hwhole
  have horder := h.currency_order hc
  obtain ⟨subtotal, shipped, left, hsubtotal, hshipped, hleft, htotal⟩ :=
    h.total_untaxed hc hchain hcards hwhole
  have hcurrency := Money.currency_sum hsubtotal
  obtain ⟨hsame, hshippedCurrency, -⟩ := Money.add_ok hshipped
  obtain ⟨sum, hsum, hundiscounted⟩ :=
    h.undiscountedTotal_untaxed hc hchain hwhole (hsame.symm.trans hcurrency) hrange
  refine ⟨fun line hline => (hlines line hline).addsUp hchain _, ⟨.untaxed subtotal, .untaxed sum⟩,
    ?_, ?_, hundiscounted⟩
  · rw [horder]
    exact Subtotals.foldlM_untaxed hlines hsubtotal hsum
  · rw [h.recordedDiscount hc hwhole hleft (hshippedCurrency.trans hcurrency), htotal]
    exact Order.totalOf_untaxed (h.shippingPrice_untaxed hc hchain) hshipped hleft

end Attempt

namespace Bookshop

/-- The copy that is shipped, with a dollar less. -/
def discountTables : Tables :=
  { shippedTables with
    checkouts := shippedTables.checkouts.map fun c => { c with discount := ⟨1, .usd⟩ } }

/-- An attempt to buy the copy with one percent of taxes. -/
def taxedAttempt : Attempt := { attempt 1 with taxes := [vat 1] }

end Bookshop

/-! ## Recalculating -/

/-- The order that is announced, recalculated with the discount that is recorded in it. -/
def OrderNotice.recalculated (notice : OrderNotice) (chain : TaxChain) : Repricing :=
  notice.order.reprice notice.lines notice.order.recordedDiscount chain

namespace Attempt

/-- **What recalculating keeps of an order that has just been created**, without gift cards, where
each provider does nothing or has flat rates, the same for the order and for its checkout. The
prices of shipping and the totals of the lines are kept in any case. All prices are kept exactly
where the order adds up, and without taxes it does if the prices of the variants and the discount
are in minor units and not too large. -/
theorem complete_recalculated (a : Attempt)
    (gateway : Payment → Tables → Except Error GatewayResponse × Tables) (t : Tables)
    (checkout : Checkout) (s : Snapshot) (notice : OrderNotice)
    (hcheckout : t.checkout? a.token = some checkout) (hcards : checkout.giftCardIds = [])
    (hread : a.snapshot t checkout = .ok s)
    (hcreated : .orderCreated notice ∈ (a.complete gateway t).events)
    (hflat : ∀ provider ∈ a.taxes, provider.IsFlat s notice.order) :
    (notice.recalculated a.taxes).order.shippingPrice = notice.order.shippingPrice ∧
      (notice.recalculated a.taxes).lines.map (·.totalPrice) = notice.lines.map (·.totalPrice) ∧
      ((notice.recalculated a.taxes).Keeps notice.order notice.lines ↔
        notice.order.AddsUp notice.lines notice.order.recordedDiscount a.taxes) ∧
      (a.taxes.PassesThrough → s.InMinorUnits → notice.order.InRange notice.lines →
        (notice.recalculated a.taxes).Keeps notice.order notice.lines) := by
  obtain ⟨plan, payment, settled, t', c, hprepared, hcreates, rfl, -, -⟩ :=
    (a.announced_complete gateway t).orders notice hcreated
  obtain rfl := hprepared.snapshot_eq hcheckout hread
  obtain rfl : plan.snapshot.checkout = checkout :=
    Option.some.inj (hprepared.checkout.symm.trans hcheckout)
  have hmatches : a.taxes.Matches plan.snapshot c.order := fun provider hprovider =>
    (hflat provider hprovider).matches
  have hships := hprepared.ships hcreates
  have hlines : ∀ line ∈ plan.lines.map (·.line), ∃ l, plan.snapshot.Prices a.taxes l line := by
    intro line hline
    obtain ⟨l, -, hprices⟩ := hprepared.linePrices line hline
    exact ⟨l, hprices⟩
  obtain ⟨hshipping, htotals⟩ := Order.reprice_prices c.order.recordedDiscount hmatches hships
    hlines
  have hkeeps := Order.reprice_keeps_iff c.order.recordedDiscount hmatches hships hlines
  refine ⟨hshipping, htotals, hkeeps, fun hchain hwhole hrange => hkeeps.2 ?_⟩
  exact hprepared.addsUp_of_untaxed hcreates hchain hcards hwhole hrange

/-- The prices of a copy that is taxed are kept, and so are those of one without taxes that a dollar
is taken off. -/
theorem complete_recalculated_bookshop :
    (∃ checkout s notice,
      Bookshop.shippedTables.checkout? Bookshop.taxedAttempt.token = some checkout ∧
      checkout.giftCardIds = [] ∧
      Bookshop.taxedAttempt.snapshot Bookshop.shippedTables checkout = .ok s ∧
      .orderCreated notice ∈
        (Bookshop.taxedAttempt.complete Bookshop.bank Bookshop.shippedTables).events ∧
      (∀ provider ∈ Bookshop.taxedAttempt.taxes, provider.IsFlat s notice.order) ∧
      (notice.recalculated Bookshop.taxedAttempt.taxes).Keeps notice.order notice.lines ∧
      notice.order.AddsUp notice.lines notice.order.recordedDiscount
        Bookshop.taxedAttempt.taxes) ∧
    ∃ checkout s notice,
      Bookshop.discountTables.checkout? (Bookshop.attempt 1).token = some checkout ∧
      checkout.giftCardIds = [] ∧
      (Bookshop.attempt 1).snapshot Bookshop.discountTables checkout = .ok s ∧
      .orderCreated notice ∈
        ((Bookshop.attempt 1).complete Bookshop.bank Bookshop.discountTables).events ∧
      s.InMinorUnits ∧
      notice.order.InRange notice.lines ∧
      (notice.recalculated (Bookshop.attempt 1).taxes).Keeps notice.order notice.lines := by
  constructor
  · have heval : ∃ checkout ∈ Bookshop.shippedTables.checkouts,
        Bookshop.shippedTables.checkout? Bookshop.taxedAttempt.token = some checkout ∧
        checkout.giftCardIds = [] ∧
        (Bookshop.taxedAttempt.snapshot Bookshop.shippedTables checkout).toOption.any
          fun (s : Snapshot) => ∃ notice ∈ (Bookshop.taxedAttempt.complete Bookshop.bank
              Bookshop.shippedTables).events.filterMap Event.notice?,
            FlatRates.orderCountry notice.order = some s.country ∧
            (notice.recalculated Bookshop.taxedAttempt.taxes).Keeps notice.order notice.lines := by
      decide +kernel
    obtain ⟨checkout, -, hcheckout, hcards, hsnapshot⟩ := heval
    obtain ⟨s, hread, hnotice⟩ := ok_of_any hsnapshot
    obtain ⟨notice, hnotice, hcountry, hkeeps⟩ := of_decide_eq_true hnotice
    have hevent := Event.mem_of_notice? hnotice
    have hflat : ∀ provider ∈ Bookshop.taxedAttempt.taxes, provider.IsFlat s notice.order :=
      List.forall_mem_singleton.2 (.rates _ _ (by rw [hcountry]))
    obtain ⟨-, -, hiff, -⟩ := complete_recalculated _ Bookshop.bank Bookshop.shippedTables checkout
      s notice hcheckout hcards hread hevent hflat
    exact ⟨checkout, s, notice, hcheckout, hcards, hread, hevent, hflat, hkeeps, hiff.1 hkeeps⟩
  · have heval : ∃ checkout ∈ Bookshop.discountTables.checkouts,
        Bookshop.discountTables.checkout? (Bookshop.attempt 1).token = some checkout ∧
        checkout.giftCardIds = [] ∧
        ((Bookshop.attempt 1).snapshot Bookshop.discountTables checkout).toOption.any
          fun (s : Snapshot) => (∀ l ∈ s.lines, l.price.quantize = l.price) ∧
            s.checkout.discount.quantize = s.checkout.discount ∧
            s.checkout.voucherCode.isSome = true ∧
            ∃ notice ∈ ((Bookshop.attempt 1).complete Bookshop.bank
                Bookshop.discountTables).events.filterMap Event.notice?,
              notice.order.InRange notice.lines := by
      decide +kernel
    obtain ⟨checkout, -, hcheckout, hcards, hsnapshot⟩ := heval
    obtain ⟨s, hread, hnotice⟩ := ok_of_any hsnapshot
    obtain ⟨hprices, hdiscount, hcode, notice, hnotice, hrange⟩ := of_decide_eq_true hnotice
    have hevent := Event.mem_of_notice? hnotice
    have hwhole : s.InMinorUnits := ⟨hprices, hdiscount, fun hnone => by simp [hnone] at hcode⟩
    have hnone : ∀ provider ∈ (Bookshop.attempt 1).taxes, provider.IsFlat s notice.order :=
      fun _ hprovider => nomatch hprovider
    obtain ⟨-, -, -, huntaxed⟩ := complete_recalculated _ Bookshop.bank Bookshop.discountTables
      checkout s notice hcheckout hcards hread hevent hnone
    exact ⟨checkout, s, notice, hcheckout, hcards, hread, hevent, hwhole, hrange,
      huntaxed (fun _ hprovider => nomatch hprovider) hwhole hrange⟩

/-- **Recalculating succeeds and changes the total of an order** that has just been created without
gift cards. -/
def Revalues (a : Attempt)
    (gateway : Payment → Tables → Except Error GatewayResponse × Tables) (t : Tables) : Prop :=
  ∃ checkout ∈ t.checkouts, t.checkout? a.token = some checkout ∧ checkout.giftCardIds = [] ∧
    ∃ notice ∈ (a.complete gateway t).events.filterMap Event.notice?,
      (notice.recalculated a.taxes).outcome = .ok () ∧
        (notice.recalculated a.taxes).order.total ≠ notice.order.total

/-- A dollar less before tax is more than a dollar less with tax. -/
theorem revalues_bookshop :
    Bookshop.taxedAttempt.Revalues Bookshop.bank Bookshop.discountTables := by
  unfold Revalues
  decide +kernel

end Attempt

end Storefront
