import Storefront.Proofs.Checkout.Undiscounted
import Storefront.Proofs.Tax.Flat

/-!
# Orders against their total without discounts

An order says what it costs and what it would cost without discounts. The first comes from taxing
and rounding each line, and what is left of all lines, once. The second comes from the taxed and
rounded price of one item, times the quantity. With flat taxes, discounts do not make an order
dearer, and yet it can look dearer than without them, by half a minor unit for each item whose taxed
price is rounded down.

* `Snapshot.Prices.isTaxedAt`, `Snapshot.Prices.isDiscounted`: the lines of an order.
* `Attempt.complete_undiscounted`: **an order against its total without discounts**.
* `Attempt.looksDearer_bookshop`: orders without discounts that look dearer.
-/

namespace Storefront

open Decimal (mantissaBound)

/-! ## Lines -/

namespace Snapshot

/-- No price and no discount is negative, and no price of the catalog is rounded down. -/
structure NothingNegative (s : Snapshot) : Prop where
  prices : s.PricesNonneg
  rounding : ∀ l ∈ s.lines, l.price.amount ≤ l.price.quantize.amount
  sales : ∀ sale ∈ s.sales, ∀ x ∈ sale.listing? s.channel.id, 0 ≤ x.discountValue
  discount : 0 ≤ s.checkout.discount.amount

namespace Prices

variable {s : Snapshot} {chain : TaxChain} {x : FlatTax} {l : CheckoutLine} {line : OrderLine}
  {c : Currency} {rate : Decimal} (h : s.Prices chain l line) (hl : l ∈ s.lines)
  (hsound : s.NothingNegative)

include h hl hsound

/-- A line that one provider taxes has its prices at the rate of that provider. -/
theorem isTaxedAt (hx : x.IsNonneg) (halike : s.PricedAlike chain x.chain)
    (hrate : x.rateFor s = .ok rate) (hcurrency : line.baseTotalPrice.currency = c) :
    line.IsTaxedAt c rate x.entryIncludesTax := by
  obtain ⟨unit, total, hunit, htotal, hitem, hbase, -⟩ := h.base
  have hcatalog := h.undiscountedBaseUnitPrice_eq
  have hprice := hsound.prices.lines l hl
  -- the prices with taxes
  have hline := h.total
  rw [halike.lines l hl, lineTotal, htotal, ok_bind, ← hbase] at hline
  obtain ⟨_, hsame, hline⟩ := FlatTax.lineTotal_ok hline
  obtain rfl := Except.ok.inj (hrate.symm.trans hsame)
  have hone := h.undiscountedUnit
  rw [hitem, halike.items l hl unit hunit, ← hitem] at hone
  obtain ⟨_, hsame, hone⟩ := FlatTax.lineUnit_ok hone
  obtain rfl := Except.ok.inj (hrate.symm.trans hsame)
  exact {
    rate_nonneg := hx.rateFor hrate
    total := hline
    item := hone
    undiscountedTotal := h.quantity ▸ h.undiscountedTotal
    baseCurrency := hcurrency
    baseNonneg := hbase ▸ (CheckoutLine.totalPrice_nonneg hprice htotal).2
    baseItemCurrency := by
      obtain ⟨_, withDiscounts, -, hsame, hrounded, -⟩ :=
        CheckoutLine.totalPrice_parts hprice hsound.sales htotal
      rw [hcatalog, ← hcurrency, hbase, hrounded]
      exact hsame.symm
    baseItemNonneg := hcatalog ▸ Money.quantize_nonneg hprice
    baseItemWhole := by rw [hcatalog, Money.quantize_quantize] }

/-- Before tax, a line costs no more than its items without discounts. -/
theorem isDiscounted (htaxed : line.IsTaxedAt c rate x.entryIncludesTax)
    (hbound : 10 * line.ceiling c < (mantissaBound * c.minor : Nat)) : line.IsDiscounted := by
  obtain ⟨_, total, -, htotal, -, hbase, -⟩ := h.base
  have hcatalog := h.undiscountedBaseUnitPrice_eq
  have hprice := hsound.prices.lines l hl
  have hcurrency := htaxed.baseItemCurrency
  rw [hcatalog] at hcurrency
  have hentered : (line.undiscountedUnitPrice.part x.entryIncludesTax).amount.units =
      l.price.quantize.amount.units := by
    rw [(Taxed.ofRate_rounded htaxed.item).1, htaxed.baseItemWhole, hcatalog]
  have hle := htaxed.items_le_ceiling x.entryIncludesTax
  have hnonneg := htaxed.ceiling_nonneg
  rw [hentered] at hle
  rw [OrderLine.IsDiscounted, hbase, hcatalog, h.quantity]
  rw [h.quantity] at hle
  refine CheckoutLine.totalPrice_le hprice hsound.sales (hsound.rounding l hl) ?_ htotal
  rw [show l.price.currency = c from hcurrency]
  omega

end Prices

end Snapshot

/-! ## Orders -/

namespace Attempt

variable {a : Attempt} {t t' : Tables} {plan : OrderPlan} {payment : Option Payment}
  {settled : Option SettledPayment} {c : Creation} {x : FlatTax} {rate : Decimal}

/-- The lines of a plan are taxed at one rate, that of a provider which prices the checkout. -/
theorem Prepared.areTaxedAt (h : a.Prepared t plan payment) (hx : x.IsNonneg)
    (halike : plan.snapshot.PricedAlike a.taxes x.chain) (hsound : plan.snapshot.NothingNegative)
    (hroom : OrderLine.HaveRoom (plan.lines.map (·.line)) plan.snapshot.checkout.currency
      plan.shippingPrice.gross) :
    ∃ rate, x.rateFor plan.snapshot = .ok rate ∧
      OrderLine.AreTaxedAt (plan.lines.map (·.line)) plan.snapshot.checkout.currency rate
        x.entryIncludesTax plan.shippingPrice.gross := by
  obtain ⟨_, _, -, -, -, hplan⟩ := h.priced
  obtain ⟨hprice, hshipping⟩ := Snapshot.plan_prices hplan
  obtain ⟨subtotal, _, _, _, _, _, hbounds⟩ :=
    FlatTax.total_ok hx hsound.prices hsound.discount (halike.total ▸ hprice)
  obtain ⟨rate, hrate, -⟩ := hbounds.taxedLines
  obtain ⟨_, hshippingRate, hshipping⟩ := FlatTax.shipping_ok (halike.shipping ▸ hshipping)
  have hshipping : 0 ≤ plan.shippingPrice.gross.amount :=
    Taxed.ofRate_nonneg (hx.shippingRateFor hshippingRate) hsound.prices.deliveryPrice hshipping
      true
  have hcurrency := Money.currency_of_foldlM_add (h.sum_of_subtotal hbounds.priced)
  have hlines : ∀ line ∈ plan.lines.map (·.line),
      line.IsTaxedAt plan.snapshot.checkout.currency rate x.entryIncludesTax := by
    intro line hline
    obtain ⟨l, hl, hprices⟩ := h.linePrices line hline
    exact hprices.isTaxedAt hl hsound hx halike hrate (hcurrency _ (List.mem_map_of_mem hline))
  refine ⟨rate, hrate, hlines, fun line hline => ?_, hshipping, hroom⟩
  obtain ⟨l, hl, hprices⟩ := h.linePrices line hline
  exact hprices.isDiscounted hl hsound (hlines line hline) (hroom.ceiling_lt hshipping hlines hline)

/-- The price of a plan against its price without discounts, before gift cards. -/
theorem Prepared.price_le (h : a.Prepared t plan payment) (hx : x.IsNonneg)
    (halike : plan.snapshot.PricedAlike a.taxes x.chain) (hsound : plan.snapshot.NothingNegative)
    (hrate : x.rateFor plan.snapshot = .ok rate)
    (hall : OrderLine.AreTaxedAt (plan.lines.map (·.line)) plan.snapshot.checkout.currency rate
      x.entryIncludesTax plan.shippingPrice.gross) (gross : Bool) :
    0 ≤ (plan.undiscountedTotal.part gross).amount ∧
      (plan.price.part gross).amount.units ≤ (plan.undiscountedTotal.part gross).amount.units +
        ((OrderLine.allShortItems (plan.lines.map (·.line)) rate x.entryIncludesTax gross + 1) / 2 *
          plan.snapshot.checkout.currency.minor : Nat) := by
  obtain ⟨_, _, -, -, -, hplan⟩ := h.priced
  obtain ⟨hprice, hshipping⟩ := Snapshot.plan_prices hplan
  obtain ⟨subtotal, left, leftDelivery, lines, delivery, sum, hbounds⟩ :=
    FlatTax.total_ok hx hsound.prices hsound.discount (halike.total ▸ hprice)
  obtain ⟨_, hsame, hlines⟩ := hbounds.taxedLines
  obtain rfl := Except.ok.inj (hrate.symm.trans hsame)
  obtain ⟨shippingRate, hshippingRate, hshipping⟩ :=
    FlatTax.shipping_ok (halike.shipping ▸ hshipping)
  obtain ⟨_, hsame, hdelivery⟩ := hbounds.taxedDelivery
  obtain rfl := Except.ok.inj (hshippingRate.symm.trans hsame)
  have hshippingNonneg := hx.shippingRateFor hshippingRate
  have hdeliveryNonneg := hsound.prices.deliveryPrice
  have hcurrency : subtotal.currency = plan.snapshot.checkout.currency :=
    Snapshot.currency_subtotal hbounds.priced
  -- shipping without discounts
  have hfirst := Taxed.part_isPartOf_gross hshippingNonneg hdeliveryNonneg hshipping gross
  have hfirstWhole := Taxed.quantize_ofRate hshipping gross
  have hfirstCurrency : (plan.shippingPrice.part gross).currency =
      plan.snapshot.checkout.currency :=
    (Taxed.currency_ofRate hshippingNonneg hshipping gross).trans
      (hbounds.currency.trans hcurrency)
  have hdeliveryLe :=
    (Taxed.ofRate_isPartOf hshippingNonneg hbounds.leftOfDelivery hdelivery hshipping gross).le
  -- lines without discounts
  have hlinesLe := hall.left_le gross (hx.rateFor hrate)
    (hbounds.leftOfLines.currency.trans hcurrency) hbounds.leftOfLines.nonneg
    (Int.le_trans hbounds.leftOfLines.le
      (hall.sum_baseTotalPrice_le (h.sum_of_subtotal hbounds.priced))) hlines
  have hundiscounted := hall.units_undiscountedTotal gross hfirst.nonneg hfirstCurrency hfirstWhole
    hfirst.le (by
      rw [List.map_map]
      exact Taxed.foldlM_add_part (Snapshot.plan_undiscountedTotal hplan) gross)
  have hsum := hall.together_le gross hfirst.nonneg hfirstCurrency hfirstWhole hfirst.le hdeliveryLe
    hlinesLe (Taxed.add_part hbounds.together gross)
  refine ⟨?_, ?_⟩
  · rw [Decimal.le_def, hundiscounted]
    exact Int.add_nonneg hfirst.nonneg (hall.undiscountedUnits_nonneg gross)
  · rw [hundiscounted]
    exact Int.le_trans (hbounds.le gross) hsum

/-- **The total of an order against its total without discounts.** -/
theorem Prepared.total_le (h : a.Prepared t plan payment) (hx : x.IsNonneg)
    (halike : plan.snapshot.PricedAlike a.taxes x.chain) (hsound : plan.snapshot.NothingNegative)
    (hcards : ∀ card ∈ plan.cardsIn t, 0 ≤ card.balance.amount)
    (hrate : x.rateFor plan.snapshot = .ok rate)
    (hall : OrderLine.AreTaxedAt (plan.lines.map (·.line)) plan.snapshot.checkout.currency rate
      x.entryIncludesTax plan.shippingPrice.gross) (gross : Bool) :
    (plan.total.part gross).amount.units ≤ (plan.undiscountedTotal.part gross).amount.units +
      ((OrderLine.allShortItems (plan.lines.map (·.line)) rate x.entryIncludesTax gross + 1) / 2 *
        plan.snapshot.checkout.currency.minor : Nat) := by
  obtain ⟨hnonneg, hprice⟩ := h.price_le hx halike hsound hrate hall gross
  obtain ⟨_, balance, -, hbalance, -, hplan⟩ := h.priced
  obtain ⟨left, hleft, htotal⟩ := Snapshot.plan_total hplan
  obtain ⟨-, -, hsub⟩ := Money.sub_ok (Taxed.subAmount_part hleft gross)
  have hle : (left.part gross).amount ≤ (plan.price.part gross).amount :=
    Decimal.sub?_le (Money.sum_nonneg (List.forall_mem_map.2 hcards) hbalance) hsub
  rw [show plan.total = _ from htotal, Taxed.part_floorAtZero, Money.units_floorAtZero]
  exact Int.max_le.2 ⟨Int.add_nonneg hnonneg (Int.natCast_nonneg _), Int.le_trans hle hprice⟩

/-- **An order against what it says it would cost without discounts**, with flat taxes, where
nothing is negative, no price of the catalog is rounded down and the amounts are not too large. It
and its lines look dearer by half a minor unit at most for each item whose taxed price is rounded
down. A line of a single item does not look dearer, and nothing does in the amounts that are
entered, which are the gross ones where prices include tax and the net ones otherwise, or without
taxes. -/
theorem complete_undiscounted (a : Attempt)
    (gateway : Payment → Tables → Except Error GatewayResponse × Tables) (t : Tables)
    (checkout : Checkout) (s : Snapshot) (notice : OrderNotice) (x : FlatTax)
    (hcheckout : t.checkout? a.token = some checkout) (hread : a.snapshot t checkout = .ok s)
    (hcreated : .orderCreated notice ∈ (a.complete gateway t).events)
    (hx : x.IsNonneg) (halike : s.PricedAlike a.taxes x.chain) (hsound : s.NothingNegative)
    (hcards : ∀ card ∈ t.giftCardsOf checkout.giftCardIds, 0 ≤ card.balance.amount)
    (hroom : OrderLine.HaveRoom notice.lines notice.order.currency
      notice.order.shippingPrice.gross) :
    ∃ rate, x.rateFor s = .ok rate ∧ ∀ gross,
      (∀ line ∈ notice.lines,
        (line.totalPrice.part gross).amount.units ≤
          (line.undiscountedTotalPrice.part gross).amount.units +
            ((line.shortItems rate x.entryIncludesTax gross + 1) / 2 *
              notice.order.currency.minor : Nat) ∧
        (line.quantity = 1 →
          (line.totalPrice.part gross).amount ≤ (line.undiscountedTotalPrice.part gross).amount)) ∧
      (notice.order.total.part gross).amount.units ≤
        (notice.order.undiscountedTotal.part gross).amount.units +
          ((OrderLine.allShortItems notice.lines rate x.entryIncludesTax gross + 1) / 2 *
            notice.order.currency.minor : Nat) ∧
      (gross = x.entryIncludesTax ∨ rate = 0 →
        (∀ line ∈ notice.lines,
          (line.totalPrice.part gross).amount ≤ (line.undiscountedTotalPrice.part gross).amount) ∧
        (notice.order.total.part gross).amount ≤
          (notice.order.undiscountedTotal.part gross).amount) := by
  obtain ⟨plan, payment, settled, t', c, h, hc, rfl, -, -⟩ :=
    (a.announced_complete gateway t).orders notice hcreated
  obtain rfl := h.snapshot_eq hcheckout hread
  obtain rfl : plan.snapshot.checkout = checkout :=
    Option.some.inj (h.checkout.symm.trans hcheckout)
  obtain ⟨htotal, hshipping, -⟩ := hc.prices
  have hundiscounted : c.order.undiscountedTotal = plan.undiscountedTotal :=
    hc.of_plan (·.undiscountedTotal) fun _ _ _ _ _ => rfl
  have hcurrency := h.currency_order hc
  obtain ⟨rate, hrate, hall⟩ := h.areTaxedAt hx halike hsound (by rwa [← hcurrency, ← hshipping])
  refine ⟨rate, hrate, fun gross => ?_⟩
  have hline (line : OrderLine) (hline : line ∈ plan.lines.map (·.line)) :=
    (hall.line line hline).total_le gross (hall.discounted line hline) (hall.ceiling_lt hline)
  have horder := h.total_le hx halike hsound hcards hrate hall gross
  rw [← htotal, ← hundiscounted] at horder
  rw [← hcurrency] at hline horder
  refine ⟨fun line hmem => ⟨hline line hmem, fun hsingle => ?_⟩, horder, fun hexact => ?_⟩
  · exact (hall.line line hmem).total_le_of_single gross (hall.discounted line hmem) hsingle
      (hall.ceiling_lt hmem)
  · have hshort (line : OrderLine) (hmem : line ∈ plan.lines.map (·.line)) :
        line.shortItems rate x.entryIncludesTax gross = 0 :=
      (hall.line line hmem).shortItems_eq_zero gross hexact
    have hallShort : OrderLine.allShortItems (plan.lines.map (·.line)) rate x.entryIncludesTax
        gross = 0 := List.sum_eq_zero (List.forall_mem_map.2 hshort)
    refine ⟨fun line hmem => ?_, ?_⟩
    · have hle := hline line hmem
      rw [hshort line hmem] at hle
      simpa [Decimal.le_def] using hle
    · rw [hallShort] at horder
      show (c.order.total.part gross).amount.units ≤
        (c.order.undiscountedTotal.part gross).amount.units
      simpa using horder

end Attempt

namespace Bookshop

/-- So many copies are in the cart, at a price. -/
def copiesFor (quantity : Nat) (price : Decimal) : Tables :=
  { saleTables with
    variantListings := [⟨⟨⟨4⟩⟩, ⟨⟨3⟩⟩, channel.id, some ⟨price, .usd⟩, none, none⟩]
    sales := []
    stocks := saleTables.stocks.map fun x => { x with quantity := quantity }
    checkouts := saleTables.checkouts.map fun c => { c with lines := [⟨⟨⟨3⟩⟩, quantity⟩] } }

/-- Three copies for forty-nine cents each. -/
def cheapTables : Tables := copiesFor 3 (cents 49)

/-- A copy for fifty cents that is a cent off. -/
def centOffTables : Tables :=
  { copiesFor 1 (cents 50) with
    sales := saleTables.sales.map fun x =>
      { x with valueType := .fixed, channelListings := [⟨channel.id, cents 1, .usd⟩] } }

/-- The taxes of `taxedAttempt`. -/
def onePercent : FlatTax := .rates { default := 1, chargeTaxesOnShipping := true } false

end Bookshop

namespace Attempt

/-- Three cheap copies, with one percent of taxes. -/
theorem complete_undiscounted_bookshop :
    ∃ (checkout : Checkout) (s : Snapshot) (notice : OrderNotice) (rate : Decimal),
      Bookshop.cheapTables.checkout? Bookshop.taxedAttempt.token = some checkout ∧
      Bookshop.taxedAttempt.snapshot Bookshop.cheapTables checkout = .ok s ∧
      .orderCreated notice ∈
        (Bookshop.taxedAttempt.complete Bookshop.bank Bookshop.cheapTables).events ∧
      Bookshop.onePercent.IsNonneg ∧
      s.PricedAlike Bookshop.taxedAttempt.taxes Bookshop.onePercent.chain ∧ s.NothingNegative ∧
      (∀ card ∈ Bookshop.cheapTables.giftCardsOf checkout.giftCardIds,
        0 ≤ card.balance.amount) ∧
      OrderLine.HaveRoom notice.lines notice.order.currency notice.order.shippingPrice.gross ∧
      Bookshop.onePercent.rateFor s = .ok rate ∧
      ∀ gross, (notice.order.total.part gross).amount.units ≤
        (notice.order.undiscountedTotal.part gross).amount.units +
          ((OrderLine.allShortItems notice.lines rate false gross + 1) / 2 *
            notice.order.currency.minor : Nat) := by
  have heval : ∃ checkout ∈ Bookshop.cheapTables.checkouts,
      Bookshop.cheapTables.checkout? Bookshop.taxedAttempt.token = some checkout ∧
      Bookshop.cheapTables.giftCardsOf checkout.giftCardIds = [] ∧
      (Bookshop.taxedAttempt.snapshot Bookshop.cheapTables checkout).toOption.any
        fun (s : Snapshot) =>
          (∀ l ∈ s.lines, 0 ≤ l.price.amount) ∧ (∀ price ∈ s.delivery.price?, 0 ≤ price.amount) ∧
          (∀ l ∈ s.lines, l.price.amount ≤ l.price.quantize.amount) ∧ s.sales = [] ∧
          0 ≤ s.checkout.discount.amount ∧
          ∃ notice ∈ (Bookshop.taxedAttempt.complete Bookshop.bank
              Bookshop.cheapTables).events.filterMap Event.notice?,
            OrderLine.HaveRoom notice.lines notice.order.currency
              notice.order.shippingPrice.gross := by
    decide +kernel
  obtain ⟨checkout, -, hcheckout, hcards, hsnapshot⟩ := heval
  obtain ⟨s, hread, hnotice⟩ := ok_of_any hsnapshot
  obtain ⟨hlines, hdelivery, hround, hsales, hdiscount, notice, hnotice, hroom⟩ :=
    of_decide_eq_true hnotice
  have hevent := Event.mem_of_notice? hnotice
  have hsound : s.NothingNegative := ⟨⟨hlines, hdelivery⟩, hround, by simp [hsales], hdiscount⟩
  have hnonneg : Bookshop.onePercent.IsNonneg := ⟨by decide, nofun⟩
  have hcards : ∀ card ∈ Bookshop.cheapTables.giftCardsOf checkout.giftCardIds,
      0 ≤ card.balance.amount := by simp [hcards]
  have halike : s.PricedAlike Bookshop.taxedAttempt.taxes Bookshop.onePercent.chain := .refl _ _
  obtain ⟨rate, hrate, hbounds⟩ := complete_undiscounted Bookshop.taxedAttempt Bookshop.bank
    Bookshop.cheapTables checkout s notice Bookshop.onePercent hcheckout hread hevent hnonneg
    halike hsound hcards hroom
  exact ⟨checkout, s, notice, rate, hcheckout, hread, hevent, hnonneg, halike, hsound, hcards,
    hroom, hrate, fun gross => (hbounds gross).2.1⟩

end Attempt

/-- No price and no value of a discount in the tables is negative. -/
structure Tables.NothingNegative (t : Tables) : Prop where
  variants : ∀ x ∈ t.variantListings, ∀ price ∈ x.price, 0 ≤ price.amount
  shipping : ∀ x ∈ t.shippingListings, 0 ≤ x.price.amount
  sales : ∀ sale ∈ t.sales, ∀ x ∈ sale.channelListings, 0 ≤ x.discountValue
  vouchers : ∀ v ∈ t.vouchers, ∀ x ∈ v.channelListings, 0 ≤ x.discountValue

namespace Attempt

/-- **An order looks dearer than without discounts**, and so does a line of it, though nothing is
negative. -/
def LooksDearer (a : Attempt)
    (gateway : Payment → Tables → Except Error GatewayResponse × Tables) (t : Tables) : Prop :=
  a.taxes.IsFlat ∧ t.NothingNegative ∧
    ∃ notice ∈ (a.complete gateway t).events.filterMap Event.notice?,
      (∃ line ∈ notice.lines,
        line.undiscountedTotalPrice.gross.amount < line.totalPrice.gross.amount) ∧
      notice.order.undiscountedTotal.gross.amount < notice.order.total.gross.amount

/-- Three copies for forty-nine cents each with one percent of taxes, three copies for a third of a
dollar each, in mills, without taxes, and a copy that is a cent off with two providers: one percent
of forty-nine cents is nothing, and so the second provider taxes it with all of its price. -/
theorem looksDearer_bookshop :
    Bookshop.taxedAttempt.LooksDearer Bookshop.bank Bookshop.cheapTables ∧
      (Bookshop.attempt 1).LooksDearer Bookshop.bank
        (Bookshop.copiesFor 3 ((Decimal.ofMantissa? 334 3).getD 0)) ∧
      ({ Bookshop.attempt 1 with taxes := [Bookshop.vat 1, Bookshop.vat 100] } :
        Attempt).LooksDearer Bookshop.bank Bookshop.centOffTables := by
  have hflat {percent : Decimal} (h : 0 ≤ percent) : ∃ r entryIncludesTax,
      FlatRates.IsNonneg r ∧ Bookshop.vat percent = r.provider entryIncludesTax :=
    ⟨{ default := percent, chargeTaxesOnShipping := true }, false, ⟨h, by simp⟩, rfl⟩
  refine ⟨⟨List.forall_mem_singleton.2 (hflat (by decide)), ⟨?_, ?_, ?_, ?_⟩, ?_⟩,
    ⟨nofun, ⟨?_, ?_, ?_, ?_⟩, ?_⟩, List.forall_mem_cons.2 ⟨hflat (by decide),
      List.forall_mem_singleton.2 (hflat (by decide))⟩, ⟨?_, ?_, ?_, ?_⟩, ?_⟩
  all_goals decide +kernel

end Attempt

end Storefront
