import Storefront.Proofs.Completion.Preparing

/-!
# The prices of an order and where they come from

A line of a checkout becomes a line of the order in one go, and so do the prices of a plan. Here
what they come to is put down price by price, for all chains of tax providers.

* `CheckoutLine.totalPrice_ok`: the price of a line, rounded from the exact prices of its items.
* `Snapshot.Prices`: where the prices of an order line come from.
* `Snapshot.orderLines_prices`: each line of an order has the prices of the line it comes from.
* `Snapshot.mapM_baseTotalPrice`: what an order keeps as prices before tax, for all lines.
* `Snapshot.plan_shipping`, `Snapshot.plan_undiscountedTotal`: the prices of shipping, and the total
  without discounts.
-/

namespace Storefront

namespace CheckoutLine

variable {l : CheckoutLine} {channel : ChannelId} {sales : List Sale} {p : LinePrice}

theorem exactUnitPrice_ok {unit : LinePrice} (h : l.exactUnitPrice channel sales = .ok unit) :
    ∃ saleId, l.salePrice channel sales = .ok (saleId, unit.withSale) ∧
      unit.undiscounted = l.price := by
  obtain ⟨⟨saleId, withSale⟩, hsale, h⟩ := bind_ok h
  dsimp only at h
  split at h
  · split at h
    · cases h
      exact ⟨saleId, hsale, rfl⟩
    · obtain ⟨_, -, h⟩ := bind_ok h
      cases h
      exact ⟨saleId, hsale, rfl⟩
  · cases h
    exact ⟨saleId, hsale, rfl⟩

/-- The price of a line is rounded from exact prices. The price with all discounts is that of its
items together, or that of one item with a voucher and of the others without. -/
theorem totalPrice_ok (h : l.totalPrice channel sales = .ok p) :
    ∃ unit undiscounted withSale withDiscounts, l.exactUnitPrice channel sales = .ok unit ∧
      unit.undiscounted.times l.quantity = .ok undiscounted ∧
      unit.withSale.times l.quantity = .ok withSale ∧
      p = LinePrice.quantize ⟨undiscounted, withSale, withDiscounts⟩ ∧
      (unit.withDiscounts.times l.quantity = .ok withDiscounts ∨
        ∃ v once others, l.voucher = some v ∧ 0 < l.quantity ∧
          afterVoucher v unit.withSale channel = .ok once ∧
          unit.withSale.times (l.quantity - 1) = .ok others ∧
          others.add once = .ok withDiscounts) := by
  obtain ⟨unit, hunit, h⟩ := bind_ok h
  have hrest {withDiscounts : Money}
      (h : (unit.undiscounted.times l.quantity >>= fun undiscounted =>
        unit.withSale.times l.quantity >>= fun withSale =>
          .ok (LinePrice.quantize ⟨undiscounted, withSale, withDiscounts⟩)) = .ok p) :
      ∃ undiscounted withSale, unit.undiscounted.times l.quantity = .ok undiscounted ∧
        unit.withSale.times l.quantity = .ok withSale ∧
        p = LinePrice.quantize ⟨undiscounted, withSale, withDiscounts⟩ := by
    obtain ⟨undiscounted, hundiscounted, h⟩ := bind_ok h
    obtain ⟨withSale, hwithSale, h⟩ := bind_ok h
    cases h
    exact ⟨undiscounted, withSale, hundiscounted, hwithSale, rfl⟩
  dsimp only at h
  split at h
  · rename_i v hv
    split at h
    · rename_i hpos
      obtain ⟨once, honce, h⟩ := bind_ok h
      obtain ⟨others, hothers, h⟩ := bind_ok h
      obtain ⟨withDiscounts, hadd, h⟩ := bind_ok h
      obtain ⟨_, _, hundiscounted, hwithSale, rfl⟩ := hrest h
      have hpos : 0 < l.quantity := of_decide_eq_true (Bool.and_eq_true_iff.1 hpos).2
      exact ⟨unit, _, _, withDiscounts, hunit, hundiscounted, hwithSale, rfl,
        .inr ⟨v, once, others, hv, hpos, honce, hothers, hadd⟩⟩
    · obtain ⟨withDiscounts, hall, h⟩ := bind_ok h
      obtain ⟨_, _, hundiscounted, hwithSale, rfl⟩ := hrest h
      exact ⟨unit, _, _, withDiscounts, hunit, hundiscounted, hwithSale, rfl, .inl hall⟩
  · obtain ⟨withDiscounts, hall, h⟩ := bind_ok h
    obtain ⟨_, _, hundiscounted, hwithSale, rfl⟩ := hrest h
    exact ⟨unit, _, _, withDiscounts, hunit, hundiscounted, hwithSale, rfl, .inl hall⟩

/-- The price of a line is rounded. -/
theorem quantize_of_totalPrice (h : l.totalPrice channel sales = .ok p) :
    p.withDiscounts.quantize = p.withDiscounts := by
  obtain ⟨_, _, _, _, -, -, -, rfl, -⟩ := totalPrice_ok h
  exact Money.quantize_quantize _

end CheckoutLine

namespace Snapshot

/-- `s.Prices chain l line`: the order line has the prices of the line `l` of the checkout. -/
structure Prices (s : Snapshot) (chain : TaxChain) (l : CheckoutLine) (line : OrderLine) :
    Prop where
  quantity : line.quantity = l.quantity
  /-- The price of one item before tax is that of the line, shared among the items. -/
  base : ∃ unit total, l.unitPrice s.channel.id s.sales = .ok unit ∧
    l.totalPrice s.channel.id s.sales = .ok total ∧
    line.undiscountedBaseUnitPrice = unit.undiscounted ∧
    line.baseTotalPrice = total.withDiscounts ∧
    line.undiscountedBaseTotalPrice = total.undiscounted ∧
    ∃ each, total.withDiscounts.divide l.quantity = .ok each ∧ line.baseUnitPrice = each.quantize
  total : s.lineTotal chain l = .ok line.totalPrice
  unit : ∃ each, line.totalPrice.divide l.quantity = .ok each ∧ line.unitPrice = each.quantize
  undiscountedUnit : chain.checkoutLineUnit s l (.untaxed line.undiscountedBaseUnitPrice) =
    .ok line.undiscountedUnitPrice
  undiscountedTotal : ∃ all, line.undiscountedUnitPrice.times l.quantity = .ok all ∧
    line.undiscountedTotalPrice = all.quantize
  taxRate : s.lineTaxRateOf chain l line.totalPrice = .ok line.taxRate

variable {s : Snapshot} {chain : TaxChain} {ids : FreshIds} {balance : Money} {p : OrderPlan}

/-- Without discounts, an item costs what it costs in the catalog. -/
theorem Prices.undiscountedBaseUnitPrice_eq {l : CheckoutLine} {line : OrderLine}
    (h : s.Prices chain l line) : line.undiscountedBaseUnitPrice = l.price.quantize := by
  obtain ⟨unit, _, hunit, -, hitem, -⟩ := h.base
  obtain ⟨exact, hexact, hunit⟩ := bind_ok hunit
  obtain ⟨_, -, hcatalog⟩ := CheckoutLine.exactUnitPrice_ok hexact
  cases hunit
  rw [hitem, ← hcatalog]
  rfl

theorem orderLine_prices {order : OrderId} {id : OrderLineId} {l : CheckoutLine}
    {line : OrderLine} (h : s.orderLine chain order id l = .ok line) : s.Prices chain l line := by
  unfold orderLine at h
  obtain ⟨unit, hunit, h⟩ := bind_ok h
  obtain ⟨base, hbase, h⟩ := bind_ok h
  obtain ⟨⟨_, _⟩, -, h⟩ := bind_ok h
  obtain ⟨_totalPrice, htotal, h⟩ := bind_ok h
  obtain ⟨shared, hshared, h⟩ := bind_ok h
  obtain ⟨_undiscountedUnitPrice, hundiscounted, h⟩ := bind_ok h
  obtain ⟨_taxRate, hrate, h⟩ := bind_ok h
  obtain ⟨each, heach, h⟩ := bind_ok h
  obtain ⟨_unitDiscount, -, h⟩ := bind_ok h
  obtain ⟨all, hall, h⟩ := bind_ok h
  cases h
  exact {
    quantity := rfl
    base := ⟨unit, base, hunit, hbase, rfl, rfl, rfl, each, heach, rfl⟩
    total := htotal
    unit := ⟨shared, hshared, rfl⟩
    undiscountedUnit := hundiscounted
    undiscountedTotal := ⟨all, hall, rfl⟩
    taxRate := hrate }

/-- **Each line of an order has the prices of the line it comes from.** -/
theorem orderLines_prices {index : Nat} {lines : List CheckoutLine} {planned : List PlannedLine}
    (h : s.orderLines chain ids index lines = .ok planned) :
    ∀ l ∈ planned, s.Prices chain l.source l.line := by
  induction lines generalizing index planned with
  | nil =>
    cases h
    simp
  | cons l rest ih =>
    obtain ⟨line, hline, h⟩ := bind_ok h
    obtain ⟨more, hmore, h⟩ := bind_ok h
    cases h
    exact List.forall_mem_cons.2 ⟨orderLine_prices hline, ih hmore⟩

/-- The prices before tax that an order keeps for its lines. -/
theorem mapM_baseTotalPrice {index : Nat} {lines : List CheckoutLine}
    {planned : List PlannedLine} (h : s.orderLines chain ids index lines = .ok planned) :
    lines.mapM (fun l => do return (← l.totalPrice s.channel.id s.sales).withDiscounts) =
      .ok (planned.map (·.line.baseTotalPrice)) := by
  induction lines generalizing index planned with
  | nil =>
    cases h
    rfl
  | cons l rest ih =>
    obtain ⟨line, hline, h⟩ := bind_ok h
    obtain ⟨more, hmore, h⟩ := bind_ok h
    cases h
    obtain ⟨_, total, -, htotal, -, hbase, -⟩ := (orderLine_prices hline).base
    rw [List.mapM_cons, htotal, List.map_cons, hbase, show rest.mapM _ = _ from ih hmore]
    rfl

theorem plan_shipping (h : s.plan chain ids balance = .ok p) :
    p.baseShippingPrice = s.deliveryPrice ∧ s.shippingPrice chain = .ok p.shippingPrice ∧
      s.shippingTaxRateOf chain p.shippingPrice = .ok p.shippingTaxRate := by
  obtain ⟨_price, -, h⟩ := bind_ok h
  obtain ⟨_left, -, h⟩ := bind_ok h
  obtain ⟨_shippingPrice, hshipping, h⟩ := bind_ok h
  obtain ⟨_shippingTaxRate, hrate, h⟩ := bind_ok h
  obtain ⟨_lines, -, h⟩ := bind_ok h
  obtain ⟨_undiscountedTotal, -, h⟩ := bind_ok h
  cases h
  exact ⟨rfl, hshipping, hrate⟩

theorem plan_undiscountedTotal (h : s.plan chain ids balance = .ok p) :
    p.lines.foldlM (fun sum l => sum.add l.line.undiscountedTotalPrice) p.shippingPrice =
      .ok p.undiscountedTotal := by
  obtain ⟨_price, -, h⟩ := bind_ok h
  obtain ⟨_left, -, h⟩ := bind_ok h
  obtain ⟨_shippingPrice, -, h⟩ := bind_ok h
  obtain ⟨_shippingTaxRate, -, h⟩ := bind_ok h
  obtain ⟨_lines, -, h⟩ := bind_ok h
  obtain ⟨_undiscountedTotal, hsum, h⟩ := bind_ok h
  cases h
  exact hsum

end Snapshot

end Storefront
