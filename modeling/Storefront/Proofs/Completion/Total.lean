import Storefront.Proofs.Checkout.Untaxed
import Storefront.Proofs.Completion.Vouchers
import Storefront.Proofs.Shop.GiftCards

/-!
# The total of an order and its parts

The total of an order, its lines and its discount are computed apart from each other. A voucher
lowers the prices of the lines or is a discount on the order, and what it takes off is counted once.

* `Order.priceOf`: what an order costs by its parts.
* `Attempt.Prepared.units_price`: a plan costs what its order costs by its parts.
* `Progress.Announced`: what is known of every order that an attempt announces.
* `Attempt.complete_reconciles`: the total of an order that an attempt creates without taxes.
-/

namespace Storefront

open Decimal (Fits)

/-- A whole number that is not too large. -/
def Decimal.IsWhole (units : Int) : Prop :=
  (pow10 maxPlaces : Int) ∣ units ∧ units.natAbs < mantissaBound * pow10 maxPlaces

instance (units : Int) : Decidable (Decimal.IsWhole units) :=
  inferInstanceAs (Decidable (_ ∧ _))

theorem Decimal.IsWhole.fits {units : Int} (h : IsWhole units) : Fits units :=
  fits_of_dvd (Nat.zero_le maxPlaces) h.1 h.2

/-! ## The parts -/

namespace Order

variable (o : Order) (lines : List OrderLine)

/-- What the discounts on the order take off together, in units of decimals. -/
def discounted (o : Order) : Int := (o.discounts.map fun d => d.amount.amount.units).sum

/-- What the lines and the delivery cost together, less the discounts on the order. -/
def balance (o : Order) (lines : List OrderLine) : Int :=
  OrderLine.together lines + o.shippingPrice.gross.amount.units - o.discounted

/-- What the order costs by its parts, before gift cards. -/
def priceOf (o : Order) (lines : List OrderLine) : Int :=
  o.currency.round (max 0 (o.balance lines))

/-- Nothing is rounded when the parts of the order are added up and gift cards are taken off. -/
structure Exact (o : Order) (lines : List OrderLine) (cards : List GiftCard) : Prop where
  eachLine : ∀ front, front <+: lines → Fits (OrderLine.together front)
  shipped : Fits (OrderLine.together lines + o.shippingPrice.gross.amount.units)
  balance : Fits (o.balance lines)
  eachCard : ∀ front, front <+: cards → Fits (GiftCard.worth front)
  left : Fits (o.priceOf lines - GiftCard.worth cards)

/-- The amounts that come up are whole and not too large. -/
def IsWhole (o : Order) (lines : List OrderLine) (cards : List GiftCard) : Prop :=
  (∀ front ∈ lines.inits, Decimal.IsWhole (OrderLine.together front)) ∧
    Decimal.IsWhole (OrderLine.together lines + o.shippingPrice.gross.amount.units) ∧
    Decimal.IsWhole (o.balance lines) ∧
    (∀ front ∈ cards.inits, Decimal.IsWhole (GiftCard.worth front)) ∧
    Decimal.IsWhole (o.priceOf lines - GiftCard.worth cards)

instance (o : Order) (lines : List OrderLine) (cards : List GiftCard) :
    Decidable (o.IsWhole lines cards) :=
  inferInstanceAs (Decidable (_ ∧ _))

theorem IsWhole.exact {o : Order} {lines : List OrderLine} {cards : List GiftCard}
    (h : o.IsWhole lines cards) : o.Exact lines cards := by
  obtain ⟨hlines, hshipped, hbalance, hcards, hleft⟩ := h
  exact {
    eachLine := fun front hfront => (hlines front ((List.mem_inits ..).2 hfront)).fits
    shipped := hshipped.fits
    balance := hbalance.fits
    eachCard := fun front hfront => (hcards front ((List.mem_inits ..).2 hfront)).fits
    left := hleft.fits }

end Order

namespace Attempt

variable {a : Attempt} {t t' : Tables} {plan : OrderPlan} {payment : Option Payment}
  {settled : Option SettledPayment} {c : Creation}

/-- The order of a plan has the prices of the plan. -/
theorem Creates.prices (h : a.Creates plan settled t c) :
    c.order.total = plan.total ∧ c.order.shippingPrice = plan.shippingPrice ∧
      c.order.discounts = plan.discounts :=
  ⟨h.total, h.of_plan (·.shippingPrice) fun _ _ _ _ _ => rfl,
    h.of_plan (·.discounts) fun _ _ _ _ _ => rfl⟩

/-- **A voucher is counted once**: what comes off the total of a checkout is what is kept with the
order as its discount. -/
theorem Prepared.units_discount (h : a.Prepared t plan payment)
    (hstored : plan.snapshot.checkout.voucherCode = none →
      plan.snapshot.checkout.discount.amount = 0) :
    plan.snapshot.discount.amount.units =
      (plan.discounts.map fun d => d.amount.amount.units).sum := by
  unfold Snapshot.discount OrderPlan.discounts
  rw [← h.voucher_snapshot]
  cases hvoucher : plan.voucher with
  | none => simp [hstored (h.code hvoucher)]
  | some v => cases hlevel : v.isLineLevel <;> simp [hlevel, Option.filter, Money.zero]

/-- What is left to pay has the currency of the price, and its amounts differ only where those of
the price do. -/
theorem Prepared.total_of_price (h : a.Prepared t plan payment) :
    plan.total.currency = plan.price.currency ∧
      (plan.price.net = plan.price.gross → plan.total.net = plan.total.gross) := by
  obtain ⟨_, balance, -, -, -, hplan⟩ := h.priced
  obtain ⟨left, hleft, htotal⟩ := Snapshot.plan_total hplan
  obtain ⟨net, hnet, hleft⟩ := bind_ok hleft
  obtain ⟨gross, hgross, hleft⟩ := bind_ok hleft
  cases hleft
  have htotal : plan.total = ⟨net.floorAtZero, gross.floorAtZero⟩ := htotal
  have hnet : plan.price.net.sub balance = .ok net := hnet
  have hgross : plan.price.gross.sub balance = .ok gross := hgross
  refine ⟨?_, fun hsame => ?_⟩
  · rw [htotal, Taxed.currency, Money.currency_floorAtZero]
    exact (Money.sub_ok hnet).2.1
  · rw [hsame] at hnet
    rw [htotal, Except.ok.inj (hnet.symm.trans hgross)]

/-- The total of an order has the currency of the checkout. -/
theorem Prepared.currency_total (h : a.Prepared t plan payment) :
    plan.total.currency = plan.snapshot.checkout.currency := by
  obtain ⟨_, balance, -, hbalance, -, hplan⟩ := h.priced
  obtain ⟨left, hleft, -⟩ := Snapshot.plan_total hplan
  obtain ⟨net, hnet, -⟩ := bind_ok hleft
  rw [h.total_of_price.1]
  exact (Money.sub_ok hnet).1.trans (Money.currency_sum hbalance)

/-- **A plan costs what its order costs by its parts**, where there are no taxes. -/
theorem Prepared.units_price (h : a.Prepared t plan payment) (hc : a.Creates plan settled t' c)
    (htaxes : a.taxes = []) (hstored : plan.snapshot.checkout.voucherCode = none →
      plan.snapshot.checkout.discount.amount = 0)
    (hexact : c.order.Exact (plan.lines.map (·.line)) (plan.cardsIn t)) :
    plan.price.net = plan.price.gross ∧
      plan.price.gross.amount.units = c.order.priceOf (plan.lines.map (·.line)) := by
  obtain ⟨_, balance, -, -, -, hplan⟩ := h.priced
  rw [htaxes] at hplan
  obtain ⟨-, -, -, hlines⟩ := Snapshot.plan_ok hplan
  obtain ⟨hprice, hshipping⟩ := Snapshot.plan_prices hplan
  obtain ⟨subtotal, hsubtotal, -⟩ := bind_ok hprice
  obtain ⟨htotal, hshippingPrice, hdiscounts⟩ := hc.prices
  have hlines : subtotal.amount.units = OrderLine.together (plan.lines.map (·.line)) :=
    Snapshot.units_subtotal hlines hsubtotal hexact.eachLine
  have hdelivery : c.order.shippingPrice.gross = plan.snapshot.deliveryPrice := by
    rw [hshippingPrice, show plan.shippingPrice = _ from Snapshot.shippingPrice_untaxed hshipping]
    rfl
  have hdiscount : plan.snapshot.discount.amount.units = c.order.discounted := by
    rw [h.units_discount hstored, Order.discounted, hdiscounts]
  have hshipped := hexact.shipped
  have hbalance := hexact.balance
  rw [Order.balance] at hbalance
  rw [← hlines, hdelivery] at hshipped hbalance
  rw [← hdiscount] at hbalance
  obtain ⟨hsame, hunits⟩ := Snapshot.units_total hsubtotal hprice hshipped hbalance
  have hcurrency : c.order.currency = plan.price.gross.currency := by
    rw [Order.currency, htotal, h.total_of_price.1, Taxed.currency,
      show plan.price.net = _ from hsame]
  refine ⟨hsame, ?_⟩
  rw [Order.priceOf, Order.balance, hcurrency, ← hlines, hdelivery, ← hdiscount]
  exact hunits

/-- **The total of an order** that is created from a plan, without taxes. -/
theorem Prepared.units_total_of_creates (h : a.Prepared t plan payment)
    (hc : a.Creates plan settled t' c) (htaxes : a.taxes = [])
    (hstored : plan.snapshot.checkout.voucherCode = none →
      plan.snapshot.checkout.discount.amount = 0)
    (hexact : c.order.Exact (plan.lines.map (·.line)) (plan.cardsIn t)) :
    c.order.total.net = c.order.total.gross ∧ c.order.total.gross.amount.units =
      max 0 (c.order.priceOf (plan.lines.map (·.line)) - GiftCard.worth (plan.cardsIn t)) := by
  obtain ⟨hsame, hprice⟩ := h.units_price hc htaxes hstored hexact
  rw [hc.prices.1, ← hprice]
  exact ⟨h.total_of_price.2 hsame, h.units_total hexact.eachCard (hprice.symm ▸ hexact.left)⟩

end Attempt

/-! ## Whole attempts -/

/-- What is announced of an order that is created. -/
def Creation.notice (c : Creation) (plan : OrderPlan) (settled : Option SettledPayment) :
    OrderNotice :=
  ⟨c.order, plan.snapshot.channel, settled.map (·.payment), plan.lines.map (·.line)⟩

theorem Creation.notice_of_mem {c : Creation} {plan : OrderPlan}
    {settled : Option SettledPayment} {notice : OrderNotice}
    (h : .orderCreated notice ∈ c.events plan settled) : notice = c.notice plan settled := by
  simpa [events, Attempt.announcements, Creation.notice] using h

/-- What is known of an attempt that has started from the tables `t`, whatever happens to the tables
while the gateway is asked. -/
structure Progress.Announced (a : Attempt) (t : Tables) (p : Progress) : Prop where
  start : p.stage = .preparing → p.tables = t
  plans : ∀ plan, p.stage.plan? = some plan → ∃ payment, a.Prepared t plan payment
  /-- An order that has been announced was created from a plan, and is the answer. -/
  orders : ∀ notice, .orderCreated notice ∈ p.events → ∃ plan payment settled t' c,
    a.Prepared t plan payment ∧ a.Creates plan settled t' c ∧ notice = c.notice plan settled ∧
      p.stage = .finished (.ok (.completed c.order)) ∧ p.tables = c.tables plan t'

namespace Progress.Announced

variable {a : Attempt} {t t₁ : Tables} {p next : Progress}
  {answer : Payment → Except Error GatewayResponse}

/-- **One stage keeps it.** -/
theorem advances (h : p.Announced a t)
    (htables : (∀ plan payment, p.stage ≠ .charging plan payment) → t₁ = p.tables)
    (hnext : a.Advances answer t₁ p.stage next) : (p.andThen next).Announced a t := by
  refine ⟨fun hpreparing => ?_, fun plan hplan => ?_, fun notice hnotice => ?_⟩
  · have hpreparing : next.stage = .preparing := hpreparing
    generalize p.stage = stage at hnext
    cases hnext <;> cases hpreparing
  · have hbefore := h.plans
    have hstart (hstage : p.stage = .preparing) : t₁ = t := by
      rw [htables (by simp [hstage]), h.start hstage]
    generalize p.stage = stage at hnext hbefore hstart
    cases hnext with
    | uncharged hprepared | charging hprepared =>
      cases hplan
      exact ⟨_, hstart rfl ▸ hprepared⟩
    | refused | unrecorded | halted | charged | failed => exact hbefore plan hplan
    | rejected | answered | found | created | released | stranded | ended => cases hplan
  · rcases List.mem_append.1 hnotice with hold | hnew
    · obtain ⟨plan, payment, settled, t', c, hprepared, hcreates, rfl, hstage, htables'⟩ :=
        h.orders notice hold
      have hkept : t₁ = p.tables := htables (by simp [hstage])
      rw [hstage] at hnext
      cases hnext
      exact ⟨plan, payment, settled, t', c, hprepared, hcreates, rfl, rfl, hkept.trans htables'⟩
    · rcases hnext.created_or_sameGoods with ⟨plan, settled, c, hstage, hcreates, rfl⟩ |
        ⟨-, hevents⟩
      · obtain ⟨payment, hprepared⟩ := h.plans plan (by rw [hstage]; rfl)
        exact ⟨plan, payment, settled, t₁, c, hprepared, hcreates, Creation.notice_of_mem hnew,
          rfl, rfl⟩
      · rw [hevents] at hnew
        cases hnew

end Progress.Announced

namespace Attempt

theorem announced_complete (a : Attempt)
    (gateway : Payment → Tables → Except Error GatewayResponse × Tables) (t : Tables) :
    (a.complete gateway t).Announced a t := by
  refine run_keeps (P := fun p => p.Announced a t) (fun p next h hnext => ?_) _ ?_
  · refine h.advances (fun hasked => ?_) hnext
    unfold Stage.tablesAfter
    split
    · rename_i plan payment hstage
      exact absurd hstage (hasked plan payment)
    · rfl
  · exact ⟨fun _ => rfl, fun _ hplan => (nomatch hplan), fun _ hnotice => (nomatch hnotice)⟩

/-- **The total of an order reconciles with its parts**, where there are no taxes and nothing is
rounded on the way: it is what the lines and the delivery cost together less the discounts on the
order, rounded, and less what the gift cards of the checkout were worth when the attempt began. The
order is the answer of the attempt, and it is in the store with the lines. -/
theorem complete_reconciles (a : Attempt)
    (gateway : Payment → Tables → Except Error GatewayResponse × Tables) (t : Tables)
    (checkout : Checkout) (notice : OrderNotice) (htaxes : a.taxes = [])
    (hcheckout : t.checkout? a.token = some checkout)
    (hstored : checkout.voucherCode = none → checkout.discount.amount = 0)
    (hcreated : .orderCreated notice ∈ (a.complete gateway t).events)
    (hexact : notice.order.Exact notice.lines (t.giftCardsOf checkout.giftCardIds)) :
    (a.complete gateway t).stage = .finished (.ok (.completed notice.order)) ∧
      notice.order ∈ (a.complete gateway t).tables.orders ∧
      (∃ others, (a.complete gateway t).tables.orderLines = others ++ notice.lines) ∧
      notice.order.total.net = notice.order.total.gross ∧
      notice.order.total.gross.amount.units = max 0 (notice.order.priceOf notice.lines -
        GiftCard.worth (t.giftCardsOf checkout.giftCardIds)) := by
  obtain ⟨plan, payment, settled, t', c, hprepared, hcreates, rfl, hstage, htables⟩ :=
    (a.announced_complete gateway t).orders notice hcreated
  obtain rfl : plan.snapshot.checkout = checkout :=
    Option.some.inj (hprepared.checkout.symm.trans hcheckout)
  refine ⟨hstage, ?_, ⟨t'.orderLines, ?_⟩,
    hprepared.units_total_of_creates hcreates htaxes hstored hexact⟩
  · rw [htables]
    exact mem_upsert_self _ _
  · rw [htables]
    rfl

end Attempt

/-- What an event announces of an order that is created. -/
def Event.notice? : Event → Option OrderNotice
  | .orderCreated notice => some notice
  | _ => none

theorem Event.mem_of_notice? {events : List Event} {notice : OrderNotice}
    (h : notice ∈ events.filterMap Event.notice?) : .orderCreated notice ∈ events := by
  obtain ⟨event, hevent, hnotice⟩ := List.mem_filterMap.1 h
  cases event <;> cases hnotice
  exact hevent

/-- Four copies, with a voucher that takes a dollar off, a gift card and a payment for the rest. -/
def Bookshop.partsTables : Tables :=
  { giftTables 4 1 with
    checkouts := (giftTables 4 1).checkouts.map fun c =>
      { c with voucherCode := some "READ", discount := ⟨1, .usd⟩ }
    payments := tables.payments }

namespace Attempt

/-- A dollar is left to pay of four, after a voucher for one and a card with two. -/
theorem complete_reconciles_bookshop :
    (Bookshop.attempt 1).taxes = [] ∧ ∃ checkout notice,
      Bookshop.partsTables.checkout? (Bookshop.attempt 1).token = some checkout ∧
      (checkout.voucherCode = none → checkout.discount.amount = 0) ∧
      .orderCreated notice ∈
        ((Bookshop.attempt 1).complete Bookshop.bank Bookshop.partsTables).events ∧
      notice.order.Exact notice.lines
        (Bookshop.partsTables.giftCardsOf checkout.giftCardIds) ∧
      notice.order.total.net = notice.order.total.gross ∧
      notice.order.total.gross.amount.units = max 0 (notice.order.priceOf notice.lines -
        GiftCard.worth (Bookshop.partsTables.giftCardsOf checkout.giftCardIds)) := by
  obtain ⟨checkout, hcheckout, hcode, notice, hnotice, hwhole⟩ : ∃ checkout,
      Bookshop.partsTables.checkout? (Bookshop.attempt 1).token = some checkout ∧
      checkout.voucherCode.isSome = true ∧
      ∃ notice ∈ ((Bookshop.attempt 1).complete Bookshop.bank
          Bookshop.partsTables).events.filterMap Event.notice?,
        notice.order.IsWhole notice.lines
          (Bookshop.partsTables.giftCardsOf checkout.giftCardIds) :=
    ⟨_, rfl, rfl, by decide +kernel⟩
  have hevent := Event.mem_of_notice? hnotice
  have hstored : checkout.voucherCode = none → checkout.discount.amount = 0 := fun hnone => by
    rw [hnone] at hcode
    cases hcode
  obtain ⟨-, -, -, hsame, htotal⟩ := complete_reconciles (Bookshop.attempt 1) Bookshop.bank
    Bookshop.partsTables checkout notice rfl hcheckout hstored hevent hwhole.exact
  exact ⟨rfl, checkout, notice, hcheckout, hstored, hevent, hwhole.exact, hsame, htotal⟩

/-- What is left is a dollar. -/
example : (((Bookshop.attempt 1).complete Bookshop.bank
    Bookshop.partsTables).tables.orders.map (·.total.gross)) = [⟨1, .usd⟩] := by
  decide +kernel

end Attempt

end Storefront
